import ActixMqtt.Timely

/-! # Failures that are reported

A publish of level 1 or 2, a subscription or an unsubscription ends with its final
acknowledgement or with an error message. It ends with neither where its actor returns
without a word, or where its check finds the entry gone or in another phase.
-/

namespace ActixMqtt

open ActorSystem

/-- The message by which a request reaches its actor. A publish of level 0 is not acknowledged. -/
def Cause.request : Cause → Option (Actor × Body)
  | .publish topic qos payload =>
      if qos = .level0 then none
      else some (.sendPublish, .request (.publish (.new topic qos payload)))
  | .subscribe msg => some (.subscribe, .subscribe msg)
  | .unsubscribe msg => some (.unsubscribe, .unsubscribe msg)
  | _ => none

/-- The packet that ends the exchange about a packet. -/
def VariablePacket.finalAcknowledgement : VariablePacket → Option VariablePacket
  | .publish ⟨_, .level1 id, _⟩ => some (.puback id)
  | .publish ⟨_, .level2 id, _⟩ => some (.pubcomp id)
  | .subscribe id _ => some (.suback id)
  | .unsubscribe id _ => some (.unsuback id)
  | _ => none

/-- A packet of the request that `ack` acknowledges has been queued. -/
def awaits (o : Origin) (ack : VariablePacket) (log : ClientLog) : Bool :=
  log.any fun
    | .emitted (.queued o' packet) => o' = o ∧ packet.finalAcknowledgement = some ack
    | _ => false

/-- The final acknowledgement of a packet of the request has been handled. -/
def concluded (o : Origin) : ClientLog → Bool
  | [] => false
  | .took a ⟨_, .request (.packet ⟨ack, _⟩)⟩ :: log =>
      (DispatchActor.target ack).map Prod.fst = some a && awaits o ack log || concluded o log
  | _ :: log => concluded o log

/-- An error message has been sent because of the request. -/
def reported (o : Origin) (log : ClientLog) : Bool :=
  log.any fun
    | .emitted (.error o' _ _ _) => o' = o
    | _ => false

/-- The request has not failed silently. -/
def accounted (o : Origin) (log : ClientLog) : Bool := concluded o log || reported o log

/-- The entry that the check of a request looks at, and the packet that is to remove it. -/
def Future.concludedBy : Future → Option (Actor × UInt16 × VariablePacket)
  | .statusCheck .publishStatus .sendPublish id _ _ => some (.publishStatus, id, .puback id)
  | .publishLevel2 id _ => some (.publishStatus, id, .pubcomp id)
  | .statusCheck .subscribeStatus .subscribe id _ _ => some (.subscribeStatus, id, .suback id)
  | .statusCheck .unsubscribeStatus .unsubscribe id _ _ =>
      some (.unsubscribeStatus, id, .unsuback id)
  | _ => none

def Job.waiting : Job → Option Future
  | .timer _ _ future | .spawned future => some future
  | _ => none

/-- The futures that have not been answered by actor `a`, with their origins. -/
def unansweredAt (a : Actor) (w : ClientWorld) : List (Origin × Future) :=
  (w.tasks.filterMap fun t => t.job.waiting.map fun future => (t.origin, future)) ++
    (w.mail a).filterMap fun m => m.body.reply.map fun future => (m.origin, future)

def hasEntry (s : State) : Actor → UInt16 → Bool
  | .publishStatus, id => id ∈ s.publishStatus
  | .subscribeStatus, id => id ∈ s.subscribeStatus
  | .unsubscribeStatus, id => id ∈ s.unsubscribeStatus
  | _, _ => false

/-! ## The silent ends -/

/-- A request whose retries are used up, or none of whose filters is valid, is dropped. -/
def dropsRequest (env : Env) (w : ClientWorld) (mv : ClientMove) : Bool :=
  match mv.label with
  | .take .sendPublish ⟨o, .request (.publish msg)⟩ =>
      msg.qos ≠ .level0 && msg.retryCount > maxRetryCount && !accounted o w.log
  | .take .subscribe ⟨o, .request (.batchSubscribe msg)⟩ | .run ⟨o, .notify (.batchSubscribe msg)⟩ =>
      (msg.retryCount > maxRetryCount ||
        (msg.subscriptions.filter fun sub => (env.topicFilterError sub.topic).isNone).isEmpty) &&
        !accounted o w.log
  | .take .unsubscribe ⟨o, .request (.batchUnsubscribe msg)⟩
  | .run ⟨o, .notify (.batchUnsubscribe msg)⟩ =>
      (msg.retryCount > maxRetryCount ||
        (msg.topics.filter fun topic => (env.topicFilterError topic).isNone).isEmpty) &&
        !accounted o w.log
  | _ => false

theorem dropsRequest_handled {env : Env} {w : ClientWorld} {mv : ClientMove} {a : Actor} {o : Origin}
    {b : Body} (handles : Handles mv.label a o b) :
    dropsRequest env w mv = dropsRequest env w ⟨.take a ⟨o, b⟩, mv.full⟩ :=
  handles.alike (f := fun label => dropsRequest env w ⟨label, mv.full⟩) fun o notice => by
    cases notice <;> rfl

/-- The check of a level 2 message finds its entry in another phase than the one it tests for. -/
def findsOtherPhase (w : ClientWorld) (mv : ClientMove) : Bool :=
  match mv.label with
  | .take .publishStatus ⟨o, .publishStatus (.getAndRemovePacketStatus id)
      (some (.publishLevel2 _ _))⟩ =>
      (w.state.publishStatus.lookup id).any (·.payload ≠ .pendingRec) && !accounted o w.log
  | _ => false

/-- An entry that the check of a request is still to look at is removed, neither by this check nor for
    the final acknowledgement. -/
def removesEntry (w : ClientWorld) (mv : ClientMove) : Bool :=
  match mv.label with
  | .take a m => (unansweredAt a w).any fun (o, future) =>
      match future.concludedBy with
      | some (a', id, ack) => a' = a && m.body.mark a = .drop id && hasEntry w.state a id &&
          m ≠ ⟨o, future.question.2⟩ && !removedBy ack a id m && !accounted o w.log
      | none => false
  | _ => false

/-- The step does not lose a request of which nothing has been heard. -/
def leavesTrace (env : Env) (w : ClientWorld) (mv : ClientMove) : Bool :=
  !dropsRequest env w mv && !findsOtherPhase w mv && !removesEntry w mv

theorem hasEntry_iff {s : State} {a : Actor} {id : UInt16} :
    hasEntry s a id ↔ id ∈ statusKeys s a := by
  cases a <;> simp [hasEntry, statusKeys]

/-! ## What has been heard of a request -/

section Log

variable {o : Origin} {log : ClientLog}

theorem concluded_cons (r : Record Actor Msg Task Input Event) (before : concluded o log) :
    concluded o (r :: log) := by
  unfold concluded
  split <;> simp_all

theorem accounted_append (recent : ClientLog) (before : accounted o log) :
    accounted o (recent ++ log) := by
  rcases Bool.or_eq_true_iff.mp before with before | before
  · refine Bool.or_eq_true_iff.mpr (.inl ?_)
    induction recent with
    | nil => exact before
    | cons r recent ih => exact concluded_cons r ih
  · refine Bool.or_eq_true_iff.mpr (.inr ?_)
    rw [reported, List.any_append, Bool.or_eq_true_iff]
    exact .inr before

end Log

section Step

variable {env : Env} {w w' : ClientWorld} {mv : ClientMove} {s : State} {es : Out} {o : Origin}
  {future : Future} {a : Actor} {id : UInt16} {ack : VariablePacket}

theorem accounted_step (taken : clientStep env w mv = some w') (before : accounted o w.log) :
    accounted o w'.log := by
  obtain ⟨s, es, reacted, -⟩ := World.fire_eq_some.mp taken
  rw [World.fire_log reacted taken, ← List.singleton_append, ← List.append_assoc]
  exact accounted_append _ before

theorem accounted_of_error {tag : String} {kind : ErrorKind} {text : String}
    (reacted : w.reaction (system env) (w.results mv.full) mv.label = some (s, es))
    (taken : clientStep env w mv = some w') (sent : .emit (.error o tag kind text) ∈ es) :
    accounted o w'.log := by
  have emitted := (emitted_step reacted taken).mpr (.inl sent)
  refine Bool.or_eq_true_iff.mpr (.inr (List.any_eq_true.mpr ⟨_, emitted, ?_⟩))
  simp

theorem accounted_of_took {o' : Origin} {n : UInt16} {dst : Actor} {name : String}
    (target : DispatchActor.target ack = some (dst, name)) (awaited : awaits o ack w.log)
    (label : mv.label = .take dst ⟨o', .request (.packet ⟨ack, n⟩)⟩)
    (taken : clientStep env w mv = some w') : accounted o w'.log := by
  obtain ⟨s, es, reacted, -⟩ := World.fire_eq_some.mp taken
  rw [World.fire_log reacted taken]
  refine accounted_append _ (Bool.or_eq_true_iff.mpr (.inl ?_))
  rw [label, Label.record, concluded, target, awaited]
  simp

theorem awaits_step (taken : clientStep env w mv = some w') (before : awaits o ack w.log) :
    awaits o ack w'.log := by
  obtain ⟨s, es, reacted, -⟩ := World.fire_eq_some.mp taken
  rw [World.fire_log reacted taken, awaits, List.any_append, List.any_cons]
  exact Bool.or_eq_true_iff.mpr (.inr (Bool.or_eq_true_iff.mpr (.inr before)))

/-- What an attempt notes, queues and looks at that a request makes. -/
theorem Attempts.concludes {ctx : Ctx} {b : Body} {att : Attempt}
    (attempts : Attempts env ctx s b att) (concludes : att.check.concludedBy = some (a, id, ack)) :
    att.status = a ∧ att.check.question.1 = a ∧ att.note.mark a = .put id ∧
      att.packet.finalAcknowledgement = some ack ∧ id ≠ 0 ∧ ctx.self ≠ a ∧ a ≠ .send := by
  cases attempts with
  | publish1 msg self below valid qos | publish2 msg self below valid qos
  | subscribe msg self below valid | unsubscribe msg self below valid =>
      cases concludes
      exact ⟨rfl, rfl, rfl, rfl, nextId_ne_zero env s, by simp [self], by simp⟩
  | pubrec id' n self below | pubrel id' n self below | sendPing n self below => cases concludes

theorem Future.concludedBy_mark (concludes : future.concludedBy = some (a, id, ack)) :
    future.isCheck ∧ future.question.1 = a ∧ future.question.2.mark a = .drop id := by
  unfold Future.concludedBy at concludes
  split at concludes <;> cases concludes <;> exact ⟨rfl, rfl, rfl⟩

theorem Future.concludedBy_target (concludes : future.concludedBy = some (a, id, ack)) :
    ∃ dst name, DispatchActor.target ack = some (dst, name) ∧ (responseTo dst ack).isSome ∧
      ∀ self response, responseTo self ack = some response → self = dst := by
  have only (self : Actor) (response : Actor × Body) (i : UInt16) :
      (responseTo self (.puback i) = some response → self = .puback) ∧
        (responseTo self (.pubcomp i) = some response → self = .pubcomp) ∧
        (responseTo self (.suback i) = some response → self = .suback) ∧
        (responseTo self (.unsuback i) = some response → self = .unsuback) := by
    cases self <;> simp [responseTo]
  unfold Future.concludedBy at concludes
  split at concludes <;> cases concludes
  · exact ⟨_, _, rfl, rfl, fun self response => (only self response id).1⟩
  · exact ⟨_, _, rfl, rfl, fun self response => (only self response id).2.1⟩
  · exact ⟨_, _, rfl, rfl, fun self response => (only self response id).2.2.1⟩
  · exact ⟨_, _, rfl, rfl, fun self response => (only self response id).2.2.2⟩

theorem Cause.Awaits.not_final {dst : Actor} {n : Nat} (awaits : (Cause.received ack n).Awaits future)
    (responds : (responseTo dst ack).isSome) : False := by
  cases future with
  | statusCheck status self id' check retryMsg =>
      obtain ⟨asks, check⟩ := awaits
      cases check with
      | publish | sendPing => cases asks
      | pubrec | pubrel =>
          obtain ⟨_, same⟩ := asks
          cases same
          simp [responseTo] at responds
      | subscribe | unsubscribe =>
          obtain ⟨_, same, -⟩ := asks
          cases same
  | publishLevel2 => cases awaits.1
  | recvLevel2 | checkStatusPhase2 =>
      obtain ⟨⟨_, same⟩, -⟩ := awaits
      cases same
      simp [responseTo] at responds
  | pingConnected | pingPending => cases awaits
  | connectAck =>
      obtain ⟨_, same⟩ := awaits
      cases same

theorem GivesUp.not_final {ctx : Ctx} {dst : Actor} {n : Nat} {b body : Body}
    (gives : GivesUp env ctx s b a body) (source : b.Genuine (.received ack n) ctx.self)
    (responds : (responseTo dst ack).isSome) (drops : body.mark a = .drop id) : False := by
  cases gives with
  | recv packet k id' self' above qos =>
      obtain same | ⟨⟨_, same⟩, -⟩ := source
      · cases self'.symm.trans same
      · cases same
        simp [responseTo] at responds
  | pubrec id' k self' above | pubrel id' k self' above =>
      obtain same | ⟨⟨_, same⟩, -⟩ := source
      · cases self'.symm.trans same
      · cases same
        simp [responseTo] at responds
  | publish msg self' above =>
      obtain same | ⟨same, -⟩ := source
      · cases self'.symm.trans same
      · cases same
  | subscribe msg self' above | unsubscribe msg self' above =>
      obtain same | ⟨⟨_, same, -⟩, -⟩ := source
      · cases self'.symm.trans same
      · cases same
  | sendPing k self' above | pingreq k self' above => cases drops

theorem accounted_of_removal {m : Msg} (genuine : genuine.Holds w)
    (concludes : future.concludedBy = some (a, id, ack)) (nonzero : id ≠ 0)
    (awaited : awaits o ack w.log)
    (reacted : w.reaction (system env) (w.results mv.full) mv.label = some (s, es))
    (taken : clientStep env w mv = some w') (posted : .post a m ∈ es)
    (removes : removedBy ack a id m) : accounted o w'.log := by
  obtain ⟨dst, name, target, responds, only⟩ := Future.concludedBy_target concludes
  obtain ⟨o', body⟩ := m
  obtain ⟨-, stems⟩ := Bool.and_eq_true_iff.mp removes
  have drops : body.mark a = .drop id := removedBy_mark removes
  obtain ⟨n, cause⟩ : ∃ n, o'.cause = .received ack n := by
    split at stems
    · rename_i packet n cause
      exact ⟨n, by rw [← show packet = ack by simpa using stems]; exact cause⟩
    · cases stems
  rcases drop_step genuine reacted posted drops with ⟨self, b, handles, removal⟩ | ⟨future', label, asked⟩
  · have source := handles.genuine genuine reacted
    rw [cause] at source
    rcases removal with gives | ⟨packet, k, rfl, response⟩ | zero | ⟨k, rfl, rfl, -⟩
    · exact (gives.not_final source responds drops).elim
    · obtain rfl | ⟨⟨_, same⟩, -⟩ := source
      · simp [responseTo] at response
      · cases same
        obtain rfl := only self _ response
        rcases handles.label_eq with label | ⟨notice, -, -, same⟩
        · exact accounted_of_took target awaited label taken
        · cases notice <;> cases same
    · exact absurd zero nonzero
    · obtain same | ⟨⟨_, same⟩, -⟩ := source
      · cases same
      · cases same
        simp [responseTo] at responds
  · have source := genuine.source reacted
    rw [label] at source
    replace source : o'.cause.Awaits future' := source
    rw [cause] at source
    exact (source.not_final responds).elim

/-! ## The entry that a check is to find -/

/-- The note of an attempt waits ahead of its check, or its entry is there, and no final
    acknowledgement is behind it. -/
structure EntryKept (o : Origin) (future : Future) (a : Actor) (id : UInt16) (ack : VariablePacket)
    (w : ClientWorld) : Prop where
  nonzero : id ≠ 0
  awaited : awaits o ack w.log
  noted : (∃ note front back, note.mark a = .put id ∧ w.mail a = front ++ ⟨o, note⟩ :: back ∧
      ⟨o, future.question.2⟩ ∉ front ∧ ∀ m ∈ back, ¬ removedBy ack a id m) ∨
    id ∈ statusKeys w.state a ∧ ∀ m ∈ w.mail a, ¬ removedBy ack a id m

def EntriesKept (w : ClientWorld) : Prop :=
  ∀ o future a id ack, future.concludedBy = some (a, id, ack) → Unanswered o future w →
    accounted o w.log ∨ EntryKept o future a id ack w

theorem entryKept_start {self : Actor} {b : Body} {att : Attempt}
    (begins : Begins env w mv es o future self b att) (single : successors o w ≤ 1)
    (concludes : future.concludedBy = some (a, id, ack))
    (reacted : w.reaction (system env) (w.results mv.full) mv.label = some (s, es))
    (taken : clientStep env w mv = some w') (alive : w'.live a) : EntryKept o future a id ack w' := by
  have through := begins.through reacted
  obtain ⟨rfl, question, puts, final, nonzero, apart, elsewhere⟩ :=
    begins.attempts.concludes (begins.check ▸ concludes)
  have fresh := begins.fresh single reacted
  rw [← begins.check, question] at fresh
  have posted : posts att.status es = [⟨o, att.note⟩] := by
    simp [through, posts, elsewhere.symm]
  refine ⟨nonzero, ?_, .inl ?_⟩
  · have emitted : .emitted (.queued o att.packet) ∈ w'.log :=
      (emitted_step reacted taken).mpr (.inl (by simp [through]))
    exact List.any_eq_true.mpr ⟨_, emitted, by simp [final]⟩
  · rw [← begins.check]
    rcases World.fire_mail reacted taken alive with ⟨m, rest, -, before, after⟩ | ⟨-, after⟩
    · refine ⟨att.note, rest, [], puts, by rw [after, posted], fun member => fresh apart ?_, by simp⟩
      rw [before]
      exact List.mem_cons_of_mem m member
    · exact ⟨att.note, w.mail att.status, [], puts, by rw [after, posted], fresh apart, by simp⟩

theorem mem_unansweredAt (waits : Unanswered o future w) :
    (o, future) ∈ unansweredAt future.question.1 w := by
  rcases waits with ⟨deadline, owner, member⟩ | member | member
  · exact List.mem_append_left _ (List.mem_filterMap.mpr ⟨_, member, rfl⟩)
  · exact List.mem_append_left _ (List.mem_filterMap.mpr ⟨_, member, rfl⟩)
  · exact List.mem_append_right _ (List.mem_filterMap.mpr ⟨_, member, by
      simp [Future.question_reply]⟩)

theorem entry_spared {m : Msg} (spared : ¬ removesEntry w mv)
    (concludes : future.concludedBy = some (a, id, ack)) (waits : Unanswered o future w)
    (label : mv.label = .take a m) (drops : m.body.mark a = .drop id)
    (there : id ∈ statusKeys w.state a) :
    accounted o w.log ∨ m = ⟨o, future.question.2⟩ ∨ removedBy ack a id m := by
  by_contra lost
  obtain ⟨unheard, other, unconcluded⟩ : ¬ accounted o w.log ∧ m ≠ ⟨o, future.question.2⟩ ∧
      ¬ removedBy ack a id m := by
    simpa [not_or] using lost
  obtain ⟨-, question, -⟩ := Future.concludedBy_mark concludes
  refine spared ?_
  rw [removesEntry, label]
  refine List.any_eq_true.mpr ⟨(o, future), question ▸ mem_unansweredAt waits, ?_⟩
  simp [concludes, drops, hasEntry_iff.mpr there, other, unconcluded, unheard]

/-- While the check of a request waits, only a final acknowledgement removes its entry. -/
theorem entryKept_step (genuine : genuine.Holds w) (single : successors o w ≤ 1)
    (concludes : future.concludedBy = some (a, id, ack)) (kept : EntryKept o future a id ack w)
    (before : Unanswered o future w) (waits : Unanswered o future w') (spared : ¬ removesEntry w mv)
    (taken : clientStep env w mv = some w') (alive : w'.live a) :
    accounted o w'.log ∨ EntryKept o future a id ack w' := by
  obtain ⟨s, es, reacted, -⟩ := World.fire_eq_some.mp taken
  obtain ⟨-, question, drops⟩ := Future.concludedBy_mark concludes
  have awaited := awaits_step taken kept.awaited
  by_cases removal : ∃ m ∈ posts a es, removedBy ack a id m
  · obtain ⟨m, posted, removes⟩ := removal
    exact .inl (accounted_of_removal genuine concludes kept.nonzero kept.awaited reacted taken
      (mem_posts.mp posted) removes)
  have calm : ∀ m ∈ posts a es, ¬ removedBy ack a id m := fun m posted removes =>
    removal ⟨m, posted, removes⟩
  obtain ⟨updates, keeps⟩ := statusKeys_step (a := a) reacted
  have keep (noted : (∃ note front back, note.mark a = .put id ∧
      w'.mail a = front ++ ⟨o, note⟩ :: back ∧ ⟨o, future.question.2⟩ ∉ front ∧
        ∀ m ∈ back, ¬ removedBy ack a id m) ∨
      id ∈ statusKeys s a ∧ ∀ m ∈ w'.mail a, ¬ removedBy ack a id m) :
      accounted o w'.log ∨ EntryKept o future a id ack w' := by
    rw [← World.fire_state reacted taken] at noted
    exact .inr ⟨kept.nonzero, awaited, noted⟩
  rcases World.fire_mail reacted taken alive with ⟨m, rest, label, mail, after⟩ | ⟨other, after⟩
  · rcases kept.noted with ⟨note, front, back, puts, split, fresh, quiet⟩ | ⟨there, quiet⟩
    · rw [mail] at split
      cases front with
      | nil =>
          -- the note is handled now
          obtain ⟨rfl, rfl⟩ := List.cons.inj split
          refine keep (.inr ⟨?_, fun m member => ?_⟩)
          · rw [updates _ label, puts]
            exact Set.mem_insert id _
          · rw [after] at member
            exact (List.mem_append.mp member).elim (quiet m) (calm m)
      | cons m' front =>
          obtain ⟨rfl, rfl⟩ := List.cons.inj split
          refine keep (.inl ⟨note, front, back ++ posts a es, puts, by simp [after],
            fun member => fresh (List.mem_cons_of_mem m member), fun m' member => ?_⟩)
          exact (List.mem_append.mp member).elim (quiet m') (calm m')
    · rw [mail] at quiet
      have quiet' : ∀ m ∈ w'.mail a, ¬ removedBy ack a id m := by
        intro m' member
        rw [after] at member
        exact (List.mem_append.mp member).elim (fun old => quiet m' (List.mem_cons_of_mem m old))
          (calm m')
      by_cases drops : m.body.mark a = .drop id
      · rcases entry_spared spared concludes before label drops there with heard | rfl | removes
        · exact .inl (accounted_step taken heard)
        · have carries : carriesOn o mv.label := by
            rw [label, ← question]
            exact Future.question_carriesOn o future
          obtain ⟨e, member, asks⟩ := unanswered_carried single reacted taken carries waits
          exact (read_silent reacted label member asks).elim
        · exact absurd removes (quiet m List.mem_cons_self)
      · refine keep (.inr ⟨?_, quiet'⟩)
        rw [updates m label]
        cases mark : m.body.mark a with
        | keep => exact there
        | put k => exact Set.mem_insert_of_mem k there
        | drop k => exact ⟨there, fun same => drops (by rw [mark, show id = k from same])⟩
  · rw [keeps other] at keep
    rcases kept.noted with ⟨note, front, back, puts, split, fresh, quiet⟩ | ⟨there, quiet⟩
    · refine keep (.inl ⟨note, front, back ++ posts a es, puts, by simp [after, split], fresh,
        fun m member => ?_⟩)
      exact (List.mem_append.mp member).elim (quiet m) (calm m)
    · refine keep (.inr ⟨there, fun m member => ?_⟩)
      rw [after] at member
      exact (List.mem_append.mp member).elim (quiet m) (calm m)

theorem entriesKept_step (genuine : genuine.Holds w) (single : ∀ o, successors o w ≤ 1)
    (inv : StopsOnRequest w') (running : ¬ stopRequested w') (spared : ¬ removesEntry w mv)
    (kept : EntriesKept w) (taken : clientStep env w mv = some w') : EntriesKept w' := by
  intro o future a id ack concludes waits
  obtain ⟨s, es, reacted, -⟩ := World.fire_eq_some.mp taken
  obtain ⟨check, -, drops⟩ := Future.concludedBy_mark concludes
  have alive := lives_on inv running (Body.mark_serves drops)
  rcases unanswered_step reacted taken check waits with before | ⟨self, b, att, begins⟩
  · rcases kept o future a id ack concludes before with heard | kept
    · exact .inl (accounted_step taken heard)
    · exact entryKept_step genuine (single o) concludes kept before waits spared taken alive
  · exact .inr (entryKept_start begins (single o) concludes reacted taken alive)

/-! ## What becomes of a request -/

/-- The actor that sees a request through. -/
def Request.keeper : Request → Option Actor
  | .publish msg => if msg.qos = .level0 then none else some .sendPublish
  | .batchSubscribe _ => some .subscribe
  | .batchUnsubscribe _ => some .unsubscribe
  | _ => none

/-- The parts of the chain of a request. -/
inductive RequestAt (env : Env) (o : Origin) (w : ClientWorld) : Prop where
  | sending (a : Actor) (req : Request) (keeper : req.keeper = some a) (there : onTheWay o a req w)
  | notified (notice : Notice) (keeper : notice.request.keeper = some notice.owner)
      (there : ⟨o, .notify notice⟩ ∈ w.tasks)
  | waiting (future : Future) (checks : future.concludedBy.isSome) (there : Pursued o future w)
  | found (future : Future) (answer : Answer) (a : Actor) (req : Request)
      (keeper : req.keeper = some a)
      (resumes : ∀ ctx, future.resume env ctx answer = [.post a ⟨ctx.origin, .request req⟩])
      (there : ⟨o, .resumed future answer⟩ ∈ w.tasks)

theorem Request.keeper_serves {req : Request} (keeper : req.keeper = some a) : a.serves := by
  unfold Request.keeper at keeper
  split at keeper
  · split at keeper <;> cases keeper
    rfl
  · cases keeper
    rfl
  · cases keeper
    rfl
  · cases keeper

theorem attempt_onward {b : Body} {att : Attempt} (inv : StopsOnRequest w)
    (running : ¬ stopRequested w') (handles : Handles mv.label a o b)
    (attempts : Attempts env ⟨a, o, w.state.now, w.results mv.full⟩ w.state b att)
    (keeper : att.retry.keeper = some a) (checks : att.check.concludedBy.isSome)
    (reacted : w.reaction (system env) (w.results mv.full) mv.label = some (s, es))
    (taken : clientStep env w mv = some w') : RequestAt env o w' := by
  have serves := Request.keeper_serves keeper
  rcases attempts.reaction handles reacted with stop | ⟨again, -⟩ | through
  · exact absurd (stopRequested_of_post inv taken reacted stop) running
  · exact .sending a att.retry keeper (onTheWay_of_resend reacted taken again)
  · refine .waiting att.check checks (.inl ⟨w.state.now + commandTimeout, some a, ?_, serves⟩)
    refine World.mem_tasks_of_spawn_fire reacted taken (fun b owned => ?_) (by simp [through])
    cases owned
    exact lives_on (stopsOnRequest_step inv taken) running serves

theorem publish_reports {msg : Publish} {e : String}
    (handles : Handles mv.label .sendPublish o (.request (.publish msg)))
    (reacted : w.reaction (system env) (w.results mv.full) mv.label = some (s, es))
    (below : ¬ msg.retryCount > maxRetryCount) (invalid : env.topicNameError msg.topic = some e) :
    ∃ tag kind text, .emit (.error o tag kind text) ∈ es := by
  have handled := handles.reaction reacted
  simp only [handleBody, SendPublishActor.receive, SendPublishActor.handle, if_neg below,
    SendPublishActor.createPacketAndIdFromMessage, invalid] at handled
  rw [← (Prod.mk.inj handled).2]
  exact ⟨_, _, _, List.mem_singleton.mpr rfl⟩

theorem publish_onward {msg : Publish} (inv : StopsOnRequest w) (running : ¬ stopRequested w')
    (label : mv.label = .take .sendPublish ⟨o, .request (.publish msg)⟩)
    (acknowledged : msg.qos ≠ .level0) (pursued : ¬ dropsRequest env w mv)
    (reacted : w.reaction (system env) (w.results mv.full) mv.label = some (s, es))
    (taken : clientStep env w mv = some w') : RequestAt env o w' ∨ accounted o w'.log := by
  by_cases above : msg.retryCount > maxRetryCount
  · refine .inr (accounted_step taken ?_)
    simpa [dropsRequest, label, acknowledged, above] using pursued
  have handles : Handles mv.label .sendPublish o (.request (.publish msg)) := by
    rw [label]
    exact .take _ _ _
  cases valid : env.topicNameError msg.topic with
  | some e =>
      obtain ⟨tag, kind, text, sent⟩ := publish_reports handles reacted above valid
      exact .inr (accounted_of_error reacted taken sent)
  | none =>
      have keeper : (Request.publish (SendPublishActor.resendMsg msg)).keeper = some .sendPublish :=
        if_neg acknowledged
      cases qos : msg.qos with
      | level0 => exact absurd qos acknowledged
      | level1 =>
          exact .inl (attempt_onward inv running handles (.publish1 msg rfl above valid qos) keeper rfl
            reacted taken)
      | level2 =>
          exact .inl (attempt_onward inv running handles (.publish2 msg rfl above valid qos) keeper rfl
            reacted taken)

theorem subscribe_onward {msg : BatchSubscribe} (inv : StopsOnRequest w)
    (running : ¬ stopRequested w')
    (handles : Handles mv.label .subscribe o (.request (.batchSubscribe msg)))
    (pursued : ¬ dropsRequest env w mv)
    (reacted : w.reaction (system env) (w.results mv.full) mv.label = some (s, es))
    (taken : clientStep env w mv = some w') : RequestAt env o w' ∨ accounted o w'.log := by
  by_cases drops : msg.retryCount > maxRetryCount ∨
      (msg.subscriptions.filter fun sub => (env.topicFilterError sub.topic).isNone).isEmpty
  · refine .inr (accounted_step taken ?_)
    rw [dropsRequest_handled handles] at pursued
    simp only [dropsRequest] at pursued
    simp_all
  · obtain ⟨below, valid⟩ := not_or.mp drops
    exact .inl (attempt_onward inv running handles
      (.subscribe msg rfl below (Bool.eq_false_of_not_eq_true valid)) rfl rfl reacted taken)

theorem unsubscribe_onward {msg : BatchUnsubscribe} (inv : StopsOnRequest w)
    (running : ¬ stopRequested w')
    (handles : Handles mv.label .unsubscribe o (.request (.batchUnsubscribe msg)))
    (pursued : ¬ dropsRequest env w mv)
    (reacted : w.reaction (system env) (w.results mv.full) mv.label = some (s, es))
    (taken : clientStep env w mv = some w') : RequestAt env o w' ∨ accounted o w'.log := by
  by_cases drops : msg.retryCount > maxRetryCount ∨
      (msg.topics.filter fun topic => (env.topicFilterError topic).isNone).isEmpty
  · refine .inr (accounted_step taken ?_)
    rw [dropsRequest_handled handles] at pursued
    simp only [dropsRequest] at pursued
    simp_all
  · obtain ⟨below, valid⟩ := not_or.mp drops
    exact .inl (attempt_onward inv running handles
      (.unsubscribe msg rfl below (Bool.eq_false_of_not_eq_true valid)) rfl rfl reacted taken)

theorem handled_onward {req : Request} (inv : StopsOnRequest w) (running : ¬ stopRequested w')
    (handles : Handles mv.label a o (.request req)) (keeper : req.keeper = some a)
    (pursued : ¬ dropsRequest env w mv) (taken : clientStep env w mv = some w') :
    RequestAt env o w' ∨ accounted o w'.log := by
  obtain ⟨s, es, reacted, -⟩ := World.fire_eq_some.mp taken
  cases req with
  | publish msg =>
      obtain ⟨acknowledged, rfl⟩ : msg.qos ≠ .level0 ∧ .sendPublish = a := by
        simpa [Request.keeper] using keeper
      rcases handles.label_eq with label | ⟨notice, -, -, same⟩
      · exact publish_onward inv running label acknowledged pursued reacted taken
      · cases notice <;> cases same
  | batchSubscribe msg =>
      cases keeper
      exact subscribe_onward inv running handles pursued reacted taken
  | batchUnsubscribe msg =>
      cases keeper
      exact unsubscribe_onward inv running handles pursued reacted taken
  | _ => cases keeper

theorem EntryKept.at_check (kept : EntryKept o future a id ack w)
    (concludes : future.concludedBy = some (a, id, ack))
    (next : (w.mail a).head? = some ⟨o, future.question.2⟩) : id ∈ statusKeys w.state a := by
  obtain ⟨-, -, drops⟩ := Future.concludedBy_mark concludes
  rcases kept.noted with ⟨note, front, back, puts, split, fresh, -⟩ | ⟨there, -⟩
  · rw [split] at next
    cases front with
    | nil =>
        obtain ⟨-, same⟩ := Msg.mk.inj (Option.some.inj next)
        rw [same, drops] at puts
        cases puts
    | cons m front =>
        obtain rfl : m = _ := Option.some.inj next
        exact absurd List.mem_cons_self fresh
  · exact there

theorem found_of_statusCheck {self : Actor} {retryMsg : Request}
    (checks : future = .statusCheck a self id .isSome retryMsg)
    (acknowledges : acknowledgementAt a id = some ack) (keeper : retryMsg.keeper = some self)
    (there : id ∈ statusKeys w.state a) (label : mv.label = .take a ⟨o, future.question.2⟩)
    (taken : clientStep env w mv = some w') : RequestAt env o w' := by
  subst checks
  obtain ⟨s, es, reacted, -⟩ := World.fire_eq_some.mp taken
  obtain ⟨answer, answered, resumes⟩ := check_answered acknowledges label reacted
  exact .found _ answer self retryMsg keeper (fun ctx => (resumes ctx).1 there)
    (World.mem_tasks_of_spawn_fire reacted taken (fun b owned => by cases owned) answered)

theorem found_of_publishLevel2 {msg : Publish} (qos : msg.qos = .level2)
    (there : id ∈ statusKeys w.state .publishStatus)
    (label : mv.label = .take .publishStatus ⟨o, (Future.publishLevel2 id msg).question.2⟩)
    (found : ¬ findsOtherPhase w mv) (taken : clientStep env w mv = some w') :
    RequestAt env o w' ∨ accounted o w'.log := by
  obtain ⟨s, es, reacted, -⟩ := World.fire_eq_some.mp taken
  obtain ⟨status, entry⟩ := Option.isSome_iff_exists.mp (AList.lookup_isSome.mpr there)
  by_cases phase : status.payload = .pendingRec
  · have spawned : .spawn ⟨o, .resumed (.publishLevel2 id msg) (.publishStatus (some status))⟩ ∈ es := by
      simp [(publishStatus_reaction (label ▸ reacted)).2, PacketStatusActor.handle_getAndRemove, entry]
    refine .inl (.found _ _ .sendPublish (.publish msg) ?_ (fun ctx => ?_)
      (World.mem_tasks_of_spawn_fire reacted taken (fun b owned => by cases owned) spawned))
    · simp [Request.keeper, qos]
    · exact if_pos phase
  · refine .inr (accounted_step taken ?_)
    simpa [findsOtherPhase, label, Future.question, entry, phase] using found

/-- The check that finds its entry has the request sent again. -/
theorem check_onward (genuine : genuine.Holds w) (kept : EntriesKept w)
    (checks : future.concludedBy.isSome)
    (label : mv.label = .take future.question.1 ⟨o, future.question.2⟩)
    (found : ¬ findsOtherPhase w mv) (taken : clientStep env w mv = some w') :
    RequestAt env o w' ∨ accounted o w'.log := by
  obtain ⟨⟨a, id, ack⟩, concludes⟩ := Option.isSome_iff_exists.mp checks
  obtain ⟨s, es, reacted, -⟩ := World.fire_eq_some.mp taken
  obtain ⟨-, question, -⟩ := Future.concludedBy_mark concludes
  have next := (World.reaction_take.mp (label ▸ reacted)).2.1
  have waits : Unanswered o future w := .inr (.inr (List.mem_of_head? next))
  rcases kept o future a id ack concludes waits with heard | kept
  · exact .inr (accounted_step taken heard)
  have there := kept.at_check concludes (question ▸ next)
  have known := waits.awaits genuine
  rw [question] at label
  cases future with
  | statusCheck status self id' check retryMsg =>
      obtain ⟨-, check⟩ := known
      cases check with
      | publish _ msg qos =>
          cases concludes
          have keeper : (Request.publish msg).keeper = some .sendPublish := by
            simp [Request.keeper, qos]
          exact .inl (found_of_statusCheck rfl rfl keeper there label taken)
      | subscribe | unsubscribe =>
          cases concludes
          exact .inl (found_of_statusCheck rfl rfl rfl there label taken)
      | _ => cases concludes
  | publishLevel2 _ msg =>
      cases concludes
      exact found_of_publishLevel2 known.2 there label found taken
  | _ => cases concludes

/-- A request goes on until it is accounted for or the client is asked to stop. -/
theorem request_onward (genuine : genuine.Holds w) (inv : StopsOnRequest w)
    (running : ¬ stopRequested w') (kept : EntriesKept w) (leaves : leavesTrace env w mv)
    (there : RequestAt env o w) (taken : clientStep env w mv = some w') :
    RequestAt env o w' ∨ accounted o w'.log := by
  obtain ⟨s, es, reacted, -⟩ := World.fire_eq_some.mp taken
  have inv' := stopsOnRequest_step inv taken
  obtain ⟨⟨pursued, found⟩, -⟩ : (¬ dropsRequest env w mv ∧ ¬ findsOtherPhase w mv) ∧
      ¬ removesEntry w mv := by
    simpa [leavesTrace] using leaves
  cases there with
  | sending a req keeper there =>
      rcases onTheWay_step inv (Request.keeper_serves keeper) taken there with stop | there | label
      · exact absurd stop running
      · exact .inl (.sending a req keeper there)
      · refine handled_onward inv running ?_ keeper pursued taken
        rw [label]
        exact .take _ _ _
  | notified notice keeper there =>
      by_cases now : mv.label = .run ⟨o, .notify notice⟩
      · refine handled_onward inv running ?_ keeper pursued taken
        rw [now]
        exact .notify _ _
      · refine .inl (.notified notice keeper (World.mem_tasks_fire taken (fun a owned => ?_) there now))
        obtain rfl : notice.owner = a := Option.some.inj owned
        exact lives_on inv' running (Request.keeper_serves keeper)
  | waiting future checks there =>
      obtain ⟨⟨a, id, ack⟩, concludes⟩ := Option.isSome_iff_exists.mp checks
      obtain ⟨-, rfl, drops⟩ := Future.concludedBy_mark concludes
      rcases pursued_step inv' running (Body.mark_serves drops) taken there with there | label
      · exact .inl (.waiting future checks there)
      · exact check_onward genuine kept checks label found taken
  | found future answer a req keeper resumes there =>
      by_cases now : mv.label = .run ⟨o, .resumed future answer⟩
      · have resumed : future.resume env ⟨future.self, o, w.state.now, w.results mv.full⟩ answer = es :=
          congrArg Prod.snd (World.reaction_run.mp (now ▸ reacted)).2.2
        have posted : .post a ⟨o, .request req⟩ ∈ es := by
          rw [← resumed, resumes]
          exact List.mem_singleton.mpr rfl
        rcases onTheWay_of_post inv (Request.keeper_serves keeper) reacted taken posted with stop | there
        · exact absurd stop running
        · exact .inl (.sending a req keeper there)
      · exact .inl (.found future answer a req keeper resumes
          (World.mem_tasks_fire taken (fun b owned => by cases owned) there now))

theorem request_begins {b : Body} (inv : StopsOnRequest w) (running : ¬ stopRequested w')
    (request : o.cause.request = some (a, b)) (label : mv.label = .take a ⟨o, b⟩)
    (pursued : ¬ dropsRequest env w mv) (taken : clientStep env w mv = some w') :
    RequestAt env o w' ∨ accounted o w'.log := by
  obtain ⟨s, es, reacted, -⟩ := World.fire_eq_some.mp taken
  have inv' := stopsOnRequest_step inv taken
  have notified {notice : Notice} (keeper : notice.request.keeper = some notice.owner)
      (spawned : .spawn ⟨o, .notify notice⟩ ∈ es) : RequestAt env o w' := by
    refine .notified notice keeper (World.mem_tasks_of_spawn_fire reacted taken (fun c owned => ?_)
      spawned)
    obtain rfl : notice.owner = c := Option.some.inj owned
    exact lives_on inv' running (Request.keeper_serves keeper)
  have handled : handleBody env ⟨a, o, w.state.now, w.results mv.full⟩ b w.state = (s, es) :=
    (World.reaction_take.mp (label ▸ reacted)).2.2
  unfold Cause.request at request
  split at request
  · rename_i topic qos payload cause
    obtain ⟨acknowledged, rfl, rfl⟩ : qos ≠ .level0 ∧ .sendPublish = a ∧
        .request (.publish (.new topic qos payload)) = b := by
      simpa using request
    have handles : Handles mv.label .sendPublish o
        (.request (.publish (.new topic qos payload))) := by
      rw [label]
      exact .take _ _ _
    exact handled_onward inv running handles (if_neg acknowledged) pursued taken
  · rename_i msg cause
    cases request
    have spawned : .spawn ⟨o, .notify (.batchSubscribe (.new [msg]))⟩ ∈ es := by
      rw [← (Prod.mk.inj handled).2]
      exact List.mem_singleton.mpr rfl
    exact .inl (notified rfl spawned)
  · rename_i msg cause
    cases request
    have spawned : .spawn ⟨o, .notify (.batchUnsubscribe (.new [msg.topic]))⟩ ∈ es := by
      rw [← (Prod.mk.inj handled).2]
      exact List.mem_singleton.mpr rfl
    exact .inl (notified rfl spawned)
  · cases request

end Step

theorem RequestAt.left {env : Env} {o : Origin} {w : ClientWorld} (there : RequestAt env o w) :
    0 < successors o w := by
  cases there with
  | sending a req keeper there =>
      have succeeds : (Body.request req).succeeds a := by
        cases req <;> first | rfl | cases keeper
      rcases there with ⟨deadline, member⟩ | member
      · exact successors_of_task (t := ⟨o, .resend deadline a req⟩) member succeeds
      · exact successors_of_mail (m := ⟨o, .request req⟩) member succeeds
  | notified notice keeper there => exact successors_of_task (t := ⟨o, .notify notice⟩) there rfl
  | waiting future checks there => exact there.unanswered.successor
  | found future answer a req keeper resumes there =>
      exact successors_of_task (t := ⟨o, .resumed future answer⟩) there rfl

/-- What holds while the client has not been asked to stop. -/
structure Traced (env : Env) (w : ClientWorld) : Prop where
  kept : EntriesKept w
  pursued : ∀ o a b, o.cause.request = some (a, b) → .took a ⟨o, b⟩ ∈ w.log →
    RequestAt env o w ∨ accounted o w.log

theorem traced_init (env : Env) (seed : Nat) : Traced env (init env seed) where
  kept o future a id ack concludes waits := by
    obtain ⟨-, question, drops⟩ := Future.concludedBy_mark concludes
    have empty : (init env seed).mail a = [] := if_neg fun same => by
      rw [same] at drops
      cases drops
    rcases waits with ⟨deadline, owner, member⟩ | member | member
    · cases List.mem_singleton.mp member
    · cases List.mem_singleton.mp member
    · rw [question, empty] at member
      cases member
  pursued o a b request took := by cases took

theorem traced_step {env : Env} {seed : Nat} {ls : List ClientMove} {w w' : ClientWorld}
    {mv : ClientMove} (run : Run env seed ls w) (running : ¬ stopRequested w')
    (traced : Traced env w) (leaves : leavesTrace env w mv)
    (taken : clientStep env w mv = some w') : Traced env w' := by
  have genuine := genuine_run run
  have inv := stopsOnRequest_run run
  obtain ⟨⟨pursued, -⟩, spared⟩ : (¬ dropsRequest env w mv ∧ ¬ findsOtherPhase w mv) ∧
      ¬ removesEntry w mv := by
    simpa [leavesTrace] using leaves
  refine ⟨entriesKept_step genuine (successors_le run) (stopsOnRequest_step inv taken) running
    spared traced.kept taken, fun o a b request took => ?_⟩
  rcases (took_step taken).mp took with label | before
  · exact request_begins inv running request label pursued taken
  · rcases traced.pursued o a b request before with there | heard
    · exact request_onward genuine inv running traced.kept leaves there taken
    · exact .inr (accounted_step taken heard)

/-- A publish of level 1 or 2, a subscription or an unsubscription of which nothing is left has been
    acknowledged or reported, in every run in which no request is dropped, no check finds another
    phase, and nothing else removes the entry that a check is to find. -/
theorem no_silent_failure {env : Env} {seed : Nat} {ls : List ClientMove} {w : ClientWorld}
    {o : Origin} {a : Actor} {b : Body}
    (leaves : Along (clientStep env) (fun w mv => leavesTrace env w mv) (init env seed) ls)
    (run : Run env seed ls w) (request : o.cause.request = some (a, b))
    (handled : .took a ⟨o, b⟩ ∈ w.log) (idle : successors o w = 0) (running : ¬ stopRequested w) :
    concluded o w.log ∨ reported o w.log := by
  have invariant : (∃ ls, Run env seed ls w) ∧ (stopRequested w ∨ Traced env w) := by
    refine exec_invariant (fun w => (∃ ls, Run env seed ls w) ∧ (stopRequested w ∨ Traced env w)) ?_
      ⟨⟨[], rfl⟩, .inr (traced_init env seed)⟩ leaves run
    rintro w mv w' ⟨⟨ls, run⟩, traced⟩ leaves taken
    refine ⟨⟨_, run.step taken⟩, ?_⟩
    by_cases stop : stopRequested w'
    · exact .inl stop
    · have earlier : ¬ stopRequested w := mt (stopRequested_step (stopsOnRequest_run run) taken) stop
      exact .inr (traced_step run stop (traced.resolve_left earlier) leaves taken)
  have traced := invariant.2.resolve_left running
  rcases traced.pursued o a b request handled with there | heard
  · have left := there.left
    rw [idle] at left
    cases left
  · exact Bool.or_eq_true_iff.mp heard

/-- A level 1 message is acknowledged before its check, which finds nothing. -/
def acknowledgedPublish : List Turn :=
  .give (.cause publisher) :: .handle .sendPublish :: registered ++ [.handle .publishStatus, .task 0]

theorem no_silent_failure_acknowledgedPublish :
    ∃ w, Run plainEnv 0 (schedule plainEnv (init plainEnv 0) acknowledgedPublish) w ∧
      (concluded publisher w.log ∨ reported publisher w.log) := by
  obtain ⟨w, run, handled, idle, running⟩ :
      ∃ w, Run plainEnv 0 (schedule plainEnv (init plainEnv 0) acknowledgedPublish) w ∧
        .took .sendPublish ⟨publisher, .request (.publish (.new "topic" .level1 [1]))⟩ ∈ w.log ∧
        successors publisher w = 0 ∧ ¬ stopRequested w :=
    ⟨_, rfl, by decide +kernel, by decide +kernel, by decide +kernel⟩
  exact ⟨w, run, no_silent_failure (by decide +kernel) run rfl handled idle running⟩

/-- A request has been handled, nothing is left of it, and nothing has been heard of it. -/
structure SilentlyFailed (o : Origin) (w : ClientWorld) : Prop where
  handled : ∃ a b, o.cause.request = some (a, b) ∧ .took a ⟨o, b⟩ ∈ w.log
  idle : successors o w = 0
  cleared : w.state.publishStatus.keys = [] ∧ w.state.subscribeStatus.keys = [] ∧
    w.state.unsubscribeStatus.keys = []
  running : ¬ stopRequested w
  unheard : ¬ (concluded o w.log ∨ reported o w.log)

/-- An environment in which the filter `a/#/b` is invalid. -/
def filteringEnv : Env :=
  { plainEnv with
    topicFilterError := fun filter => if filter = "a/#/b" then some "invalid topic filter" else none }

def invalidSubscribe : List Turn :=
  [.give (.cause ⟨1, .subscribe ⟨"a/#/b", .level1⟩⟩), .handle .subscribe, .task 0]

/-- An attempt at a level 1 message whose PUBACK does not come. -/
def unacknowledged : List Turn :=
  [.handle .sendPublish, .handle .publishStatus, .give (.advance commandTimeout), .task 0, .task 0,
    .handle .publishStatus, .task 0]

def retriesUsedUp : List Turn :=
  .give (.cause publisher) :: (List.replicate 6 unacknowledged).flatten ++
    [.handle .sendPublish, .handle .publishStatus]

/-- A level 2 message whose PUBREC comes and whose PUBCOMP does not. -/
def uncompleted : List Turn :=
  [.give (.cause ⟨1, .publish "topic" .level2 [1]⟩), .handle .sendPublish, .handle .publishStatus,
    .give (.cause ⟨2, .received (.pubrec 1) 0⟩), .handle .dispatch, .handle .pubrec,
    .handle .publishStatus, .give (.advance commandTimeout), .task 1, .task 0, .handle .publishStatus,
    .task 0, .task 0, .task 0, .handle .publishStatus, .task 0]

/-- Requests fail silently without a valid filter, with their retries used up, and with their entry
    found in another phase. -/
theorem silent_failure :
    (∃ w, Run filteringEnv 0 (schedule filteringEnv (init filteringEnv 0) invalidSubscribe) w ∧
      SilentlyFailed ⟨1, .subscribe ⟨"a/#/b", .level1⟩⟩ w) ∧
    (∃ w, Run plainEnv 0 (schedule plainEnv (init plainEnv 0) retriesUsedUp) w ∧
      SilentlyFailed publisher w) ∧
    ∃ w, Run plainEnv 0 (schedule plainEnv (init plainEnv 0) uncompleted) w ∧
      SilentlyFailed ⟨1, .publish "topic" .level2 [1]⟩ w ∧
      successors ⟨2, .received (.pubrec 1) 0⟩ w = 0 := by
  refine ⟨⟨_, rfl, ⟨_, _, rfl, ?_⟩, ?_, ?_, ?_, ?_⟩, ⟨_, rfl, ⟨_, _, rfl, ?_⟩, ?_, ?_, ?_, ?_⟩,
    ⟨_, rfl, ⟨⟨_, _, rfl, ?_⟩, ?_, ?_, ?_, ?_⟩, ?_⟩⟩
  all_goals decide +kernel

end ActixMqtt
