import ActixMqtt.Actors.Inbox

/-! # What is passed on in order

Every mailbox is a queue. So what an actor handles comes in the order in which it was
posted, and what it passes on while it handles its messages, one thing for each at most,
keeps this order down a chain of actors. `key` picks what is followed.
-/

namespace ActorSystem

variable {A M T I E S κ : Type} [DecidableEq A]

/-- What a step takes from the mailbox of `a`. -/
def taken (a : A) : Label A M T I → List M
  | .take b m => if b = a then [m] else []
  | .run _ | .give _ => []

/-- Of what was produced for the actor, `came`, some is in its mailbox or was handled, and of what
    was handled `went` came out. -/
structure Relays (key : M → Option κ) (a : A) (came went : List κ) (w : World A M T I E S) : Prop where
  waits : ((inbox a w).filterMap key).Sublist came
  passed : went.Sublist ((handled a w.log).reverse.filterMap key)

section Fire

variable [DecidableEq M] [DecidableEq T] {sys : System A M T I E S} {w w' : World A M T I E S}
  {res : A → Option SendError} {l : Label A M T I} {s : S} {es : List (Effect A M T E)} {a : A}

theorem handled_fire (reacted : w.reaction sys res l = some (s, es))
    (fired : w.fire sys res l = some w') :
    (handled a w'.log).reverse = (handled a w.log).reverse ++ taken a l := by
  by_cases takes : ∃ m, l = .take a m
  · obtain ⟨m, label⟩ := takes
    rw [handled_take reacted fired label, List.reverse_cons, label, taken, if_pos rfl]
  · have other : ∀ m, l ≠ .take a m := fun m same => takes ⟨m, same⟩
    have nothing : taken a l = [] := by
      cases l with
      | take b m => exact if_neg fun same => other m (by rw [same])
      | run t | give i => rfl
    rw [handled_other reacted fired other, nothing, List.append_nil]

theorem taken_consume (reacted : w.reaction sys res l = some (s, es)) :
    w.mail a = taken a l ++ (w.consume s l).mail a := by
  cases l with
  | take b m =>
      by_cases same : b = a
      · subst same
        have head := (World.reaction_take.mp reacted).2.1
        simp only [taken, World.consume, Function.update_self, if_true]
        exact (List.cons_head?_tail head).symm
      · have apart : a ≠ b := fun h => same h.symm
        simp [taken, World.consume, same, Function.update_of_ne apart]
  | run t | give i => rfl

theorem inbox_sublist_fire (reacted : w.reaction sys res l = some (s, es))
    (fired : w.fire sys res l = some w') : (inbox a w').Sublist (inbox a w ++ posts a es) := by
  have before : inbox a w =
      (handled a w.log).reverse ++ (taken a l ++ (w.consume s l).mail a) := by
    rw [inbox, taken_consume reacted]
  have after : inbox a w' = (handled a w.log).reverse ++ taken a l ++ w'.mail a := by
    rw [inbox, handled_fire reacted fired]
  rw [before, after, List.append_assoc, List.append_assoc, List.append_assoc]
  exact (List.Sublist.refl _).append ((List.Sublist.refl _).append
    (World.fire_mail_sublist reacted fired a))

theorem Relays.fire {key : M → Option κ} {came went more out : List κ}
    (relays : Relays key a came went w) (reacted : w.reaction sys res l = some (s, es))
    (fired : w.fire sys res l = some w')
    (produced : ((posts a es).filterMap key).Sublist more)
    (passed : out.Sublist ((taken a l).filterMap key)) :
    Relays key a (came ++ more) (went ++ out) w' := by
  constructor
  · refine ((inbox_sublist_fire reacted fired).filterMap key).trans ?_
    rw [List.filterMap_append]
    exact relays.waits.append produced
  · rw [handled_fire reacted fired, List.filterMap_append]
    exact relays.passed.append passed

end Fire

/-- What comes out of the actor comes out in the order in which it was produced. -/
theorem Relays.order {key : M → Option κ} {w : World A M T I E S} {a : A} {came went : List κ}
    (relays : Relays key a came went w) : went.Sublist came :=
  relays.passed.trans (((List.sublist_append_left _ _).filterMap key).trans relays.waits)

end ActorSystem
