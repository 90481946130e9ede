import ActixMqtt.Genuine

/-! # The graceful disconnect

DisconnectActor holds DISCONNECT back until the publish status actor reports an empty map.
The reports pass through its mailbox, so what counts is how it gets through the messages
that wait there. A timer that reads and removes an entry empties the map although the
publish is tried again.
-/

namespace ActixMqtt

open ActorSystem

/-! ## What is to be waited for -/

/-- The level 1 and level 2 publishes whose `publish()` call has returned: SendPublishActor has
    handled the message. -/
def returned : ClientLog → List Origin
  | [] => []
  | .took .sendPublish ⟨o, .request (.publish msg)⟩ :: log =>
      if msg.qos = .level0 then returned log else o :: returned log
  | _ :: log => returned log

/-- The publishes that had returned when `disconnect(false)` was last called. -/
def awaited : ClientLog → List Origin
  | [] => []
  | .gave (.cause ⟨_, .disconnect ⟨false⟩⟩) :: log => returned log
  | _ :: log => awaited log

/-- The publish whose packet was the last one to be queued with this level and identifier. -/
def lastQueued (qos : QoSWithPacketIdentifier) : ClientLog → Option Origin
  | [] => none
  | .emitted (.queued o (.publish packet)) :: log =>
      if packet.qos = qos then some o else lastQueued qos log
  | _ :: log => lastQueued qos log

/-- The PUBACK or PUBCOMP of a publish has been handled. -/
def confirmed (o : Origin) : ClientLog → Bool
  | [] => false
  | .took .puback ⟨_, .request (.packet ⟨.puback id, _⟩)⟩ :: log =>
      lastQueued (.level1 id) log = some o || confirmed o log
  | .took .pubcomp ⟨_, .request (.packet ⟨.pubcomp id, _⟩)⟩ :: log =>
      lastQueued (.level2 id) log = some o || confirmed o log
  | _ :: log => confirmed o log

/-- The retries of a publish are used up. -/
def gaveUp (o : Origin) : ClientLog → Bool
  | [] => false
  | .took .sendPublish ⟨o', .request (.publish msg)⟩ :: log =>
      o' = o && msg.retryCount > maxRetryCount || gaveUp o log
  | _ :: log => gaveUp o log

/-- What `disconnect(false)` still has to wait for. -/
def owed (log : ClientLog) : List Origin :=
  (awaited log).filter fun o => !confirmed o log && !gaveUp o log

/-- The publish status map has an entry while a publish is owed, and `disconnect(false)` is called
    again for further publishes only when no earlier call is under way. -/
def pendingKnown (w : ClientWorld) (mv : ClientMove) : Bool :=
  ((owed w.log).isEmpty || !w.state.publishStatus.keys.isEmpty) &&
    match mv.label with
    | .give (.cause ⟨_, .disconnect ⟨false⟩⟩) =>
        (returned w.log).all (awaited w.log).contains ||
          !w.state.pendingDisconnect && (w.mail .disconnect).all fun m => match m.body with
            | .request _ => false
            | _ => true
    | _ => true

/-- `disconnect(true)` has been called. -/
def forced (log : ClientLog) : Bool :=
  log.any fun
    | .gave (.cause ⟨_, .disconnect ⟨true⟩⟩) => true
    | _ => false

theorem mem_owed {o : Origin} {log : ClientLog} :
    o ∈ owed log ↔ o ∈ awaited log ∧ confirmed o log = false ∧ gaveUp o log = false := by
  simp [owed]

theorem confirmed_cons {o : Origin} {log : ClientLog} (r : Record Actor Msg Task Input Event)
    (before : confirmed o log) : confirmed o (r :: log) := by
  unfold confirmed
  split <;> simp_all

theorem gaveUp_cons {o : Origin} {log : ClientLog} (r : Record Actor Msg Task Input Event)
    (before : gaveUp o log) : gaveUp o (r :: log) := by
  unfold gaveUp
  split <;> simp_all

theorem owed_append {o : Origin} {log : ClientLog} {front : ClientLog}
    (calm : ∀ n, .gave (.cause ⟨n, .disconnect ⟨false⟩⟩) ∉ front) (left : o ∈ owed (front ++ log)) :
    o ∈ owed log := by
  induction front with
  | nil => exact left
  | cons r front ih =>
      refine ih (fun n member => calm n (List.mem_cons_of_mem _ member)) ?_
      rw [List.cons_append] at left
      obtain ⟨waits, unconfirmed, pursued⟩ := mem_owed.mp left
      refine mem_owed.mpr ⟨?_, Bool.of_not_eq_true (mt (confirmed_cons r) (by simp [unconfirmed])),
        Bool.of_not_eq_true (mt (gaveUp_cons r) (by simp [pursued]))⟩
      unfold awaited at waits
      split at waits
      · rename_i none
        cases none
      · rename_i same
        obtain ⟨rfl, -⟩ := List.cons.inj same
        exact absurd List.mem_cons_self (calm _)
      · rename_i same
        obtain ⟨-, rfl⟩ := List.cons.inj same
        exact waits

/-! ## Through the mailbox of DisconnectActor -/

/-- The last report in the mailbox, or what DisconnectActor knows when there is none. -/
def latestReport (finished : Bool) : List Body → Bool
  | [] => finished
  | .packetSendStatus msg :: bodies => latestReport msg.finished bodies
  | _ :: bodies => latestReport finished bodies

/-- DisconnectActor gets through its mailbox without leaving or being told to leave, and then knows
    that something is pending. -/
def keepsWaiting (finished pending : Bool) : List Body → Bool
  | [] => !finished
  | .packetSendStatus msg :: bodies =>
      !(pending && msg.finished) && keepsWaiting msg.finished pending bodies
  | .request (.disconnect msg) :: bodies =>
      !(msg.force || finished) && keepsWaiting finished true bodies
  | _ :: bodies => keepsWaiting finished pending bodies

theorem latestReport_append (finished : Bool) (front back : List Body) :
    latestReport finished (front ++ back) = latestReport (latestReport finished front) back := by
  fun_induction latestReport finished front with
  | case1 finished => rfl
  | case2 finished msg bodies ih => exact ih
  | case3 finished b bodies other ih => rw [List.cons_append, latestReport.eq_3 _ _ _ other, ih]

/-- A message that reports something pending, or asks to wait. -/
def Body.quiet (b : Body) : Prop :=
  b = .packetSendStatus ⟨false⟩ ∨ b = .request (.disconnect ⟨false⟩) ∨ b = .stop

theorem keepsWaiting_quiet {bodies : List Body} (quiet : ∀ b ∈ bodies, b.quiet) (pending : Bool) :
    keepsWaiting false pending bodies := by
  induction bodies generalizing pending with
  | nil => rfl
  | cons b bodies ih =>
      have rest (pending : Bool) : keepsWaiting false pending bodies :=
        ih (fun b member => quiet b (List.mem_cons_of_mem _ member)) pending
      rcases quiet b List.mem_cons_self with rfl | rfl | rfl
      · simp [keepsWaiting, rest]
      · simp [keepsWaiting, rest]
      · exact rest pending

theorem keepsWaiting_append {finished pending : Bool} {front back : List Body}
    (waits : keepsWaiting finished pending front) (quiet : ∀ b ∈ back, b.quiet) :
    keepsWaiting finished pending (front ++ back) := by
  fun_induction keepsWaiting finished pending front with
  | case1 finished pending =>
      obtain rfl : finished = false := by simpa using waits
      exact keepsWaiting_quiet quiet pending
  | case2 finished pending msg bodies ih =>
      obtain ⟨stays, rest⟩ := (Bool.and_eq_true _ _).mp waits
      exact (Bool.and_eq_true _ _).mpr ⟨stays, ih rest⟩
  | case3 finished pending msg bodies ih =>
      obtain ⟨stays, rest⟩ := (Bool.and_eq_true _ _).mp waits
      exact (Bool.and_eq_true _ _).mpr ⟨stays, ih rest⟩
  | case4 finished pending b bodies report call ih =>
      rw [List.cons_append, keepsWaiting.eq_4 _ _ _ _ report call]
      exact ih waits

theorem keepsWaiting_of_latestReport {finished : Bool} {bodies : List Body}
    (calm : ∀ msg, .request (.disconnect msg) ∉ bodies)
    (pending : latestReport finished bodies = false) : keepsWaiting finished false bodies := by
  have tail {b : Body} {bodies : List Body} (calm : ∀ msg, .request (.disconnect msg) ∉ b :: bodies) :
      ∀ msg, .request (.disconnect msg) ∉ bodies :=
    fun msg member => calm msg (List.mem_cons_of_mem _ member)
  fun_induction latestReport finished bodies with
  | case1 finished => simp [keepsWaiting, pending]
  | case2 finished msg bodies ih =>
      simp only [keepsWaiting, Bool.false_and, Bool.not_false, Bool.true_and]
      exact ih (tail calm) pending
  | case3 finished b bodies report ih =>
      rw [keepsWaiting.eq_4 _ _ _ _ report
        (fun msg same => calm msg (same ▸ List.mem_cons_self))]
      exact ih (tail calm) pending

/-! ## What reaches DisconnectActor -/

section Step

variable {env : Env} {w w' : ClientWorld} {mv : ClientMove} {s : State} {es : Out}

/-- The steps that tell DisconnectActor something, and what they tell it. -/
inductive Tells (w : ClientWorld) (s : State) : Label Actor Msg Task Input → Body → Prop where
  | report (m : Msg) :
      Tells w s (.take .publishStatus m) (.packetSendStatus ⟨s.publishStatus.keys.length == 0⟩)
  | call (serial : Nat) (msg : Disconnect) :
      Tells w s (.give (.cause ⟨serial, .disconnect msg⟩)) (.request (.disconnect msg))
  | insist (o : Origin) (msg : PacketSendStatus)
      (waiting : w.state.pendingDisconnect && msg.finished) :
      Tells w s (.take .disconnect ⟨o, .packetSendStatus msg⟩) (.request (.disconnect ⟨true⟩))
  | again (o : Origin) (deadline : Nat) (req : Request) :
      Tells w s (.run ⟨o, .resend deadline .disconnect req⟩) (.request req)
  | stop (m : Msg) : Tells w s (.take .stop m) .stop

theorem Produces.tells {ctx : Ctx} {b : Body} {m : Msg}
    (produces : Produces env ctx s b (.post .disconnect m)) :
    (ctx.self = .publishStatus ∧ ∃ op future, b = .publishStatus op future ∧ m.body =
        .packetSendStatus ⟨(PacketStatusActor.handle s.publishStatus op).1.keys.length == 0⟩) ∨
      (ctx.self = .disconnect ∧ ∃ msg, b = .packetSendStatus msg ∧
        (s.pendingDisconnect && msg.finished) ∧ m.body = .request (.disconnect ⟨true⟩)) ∨
      (ctx.self = .stop ∧ m.body = .stop) := by
  cases produces.signals rfl with
  | report op future self => exact .inl ⟨self, op, future, rfl, rfl⟩
  | insist msg self waiting => exact .inr (.inl ⟨self, msg, rfl, waiting, rfl⟩)
  | passStop recipient self first member => exact .inr (.inr ⟨self, rfl⟩)

theorem tells_of_post {m : Msg} (holds : genuine.Holds w)
    (reacted : w.reaction (system env) (w.results mv.full) mv.label = some (s, es))
    (posted : .post .disconnect m ∈ es) : Tells w s mv.label m.body := by
  cases post_step holds reacted posted with
  | handler handles produces =>
      rcases handles.label_eq with label | ⟨notice, -, owner, -⟩
      · rw [label]
        rcases produces.tells with ⟨self, op, future, body, report⟩ |
          ⟨self, msg, body, waiting, insist⟩ | ⟨self, stop⟩
        · cases self
          cases body
          rw [label] at reacted
          have map : s.publishStatus = (PacketStatusActor.handle w.state.publishStatus op).1 :=
            congrArg State.publishStatus (publishStatus_reaction reacted).1
          rw [report, ← map]
          exact .report _
        · cases self
          cases body
          rw [insist]
          exact .insist _ msg waiting
        · cases self
          rw [stop]
          exact .stop _
      · rcases produces.tells with ⟨self, -⟩ | ⟨self, -⟩ | ⟨self, -⟩ <;> cases owner <;>
          cases notice <;> cases self
  | asks o future b label awaits question =>
      exact absurd (congrArg Prod.fst question) awaits.asked.2.1
  | resend o deadline req label asks home =>
      rw [label]
      exact .again o deadline req
  | retry o future answer req label asks home other => exact absurd rfl other
  | note o id retryCount packet answer label qos told => cases told
  | pubrec o id retryCount packet answer label told => cases told
  | stop o told => rcases told with told | told <;> cases told
  | arrives o label arrives =>
      rw [label]
      obtain ⟨serial, cause⟩ := o
      generalize shape : (Effect.post .disconnect m : ClientEffect) = e at arrives
      cases arrives with
      | disconnect msg cause =>
          cases shape
          cases cause
          exact .call serial msg
      | _ => cases shape

/-- Where DisconnectActor passes a call of `disconnect` on, and where it goes on waiting. -/
theorem disconnect_reaction {o : Origin} {msg : Disconnect}
    (label : mv.label = .take .disconnect ⟨o, .request (.disconnect msg)⟩)
    (reacted : w.reaction (system env) (w.results mv.full) mv.label = some (s, es)) :
    if msg.force || w.state.packetSendFinished then .halt .disconnect ∈ es ∧ s = w.state
    else es = [] ∧ s = { w.state with pendingDisconnect := true } := by
  have handled : DisconnectActor.handle ⟨.disconnect, o, w.state.now, w.results mv.full⟩ msg w.state =
    (s, es) := (World.reaction_take.mp (label ▸ reacted)).2.2
  unfold DisconnectActor.handle at handled
  split at handled
  · rename_i through
    obtain ⟨rfl, rfl⟩ := Prod.mk.inj handled
    rw [if_pos through]
    exact ⟨by simp, rfl⟩
  · rename_i waits
    obtain ⟨rfl, rfl⟩ := Prod.mk.inj handled
    rw [if_neg waits]
    exact ⟨rfl, rfl⟩

theorem report_reaction {o : Origin} {msg : PacketSendStatus}
    (label : mv.label = .take .disconnect ⟨o, .packetSendStatus msg⟩)
    (reacted : w.reaction (system env) (w.results mv.full) mv.label = some (s, es)) :
    s.packetSendFinished = msg.finished ∧
      if w.state.pendingDisconnect && msg.finished then s.pendingDisconnect = false
      else s.pendingDisconnect = w.state.pendingDisconnect ∧ es = [] := by
  have handled : DisconnectActor.handlePacketSendStatus
    ⟨.disconnect, o, w.state.now, w.results mv.full⟩ msg w.state = (s, es) :=
      (World.reaction_take.mp (label ▸ reacted)).2.2
  unfold DisconnectActor.handlePacketSendStatus at handled
  dsimp only at handled
  split at handled
  · rename_i insists
    obtain ⟨rfl, rfl⟩ := Prod.mk.inj handled
    rw [if_pos insists]
    exact ⟨rfl, rfl⟩
  · rename_i waits
    obtain ⟨rfl, rfl⟩ := Prod.mk.inj handled
    rw [if_neg waits]
    exact ⟨rfl, rfl, rfl⟩

theorem idle_reaction {o : Origin} {b : Body} (label : mv.label = .take .disconnect ⟨o, b⟩)
    (reacted : w.reaction (system env) (w.results mv.full) mv.label = some (s, es))
    (report : ∀ msg, b ≠ .packetSendStatus msg) (call : ∀ msg, b ≠ .request (.disconnect msg)) :
    s = w.state := by
  have handled : DisconnectActor.receive ⟨.disconnect, o, w.state.now, w.results mv.full⟩ w.state
    b = (s, es) := (World.reaction_take.mp (label ▸ reacted)).2.2
  unfold DisconnectActor.receive at handled
  split at handled
  · exact absurd rfl (call _)
  · exact absurd rfl (report _)
  · exact (Prod.mk.inj handled).1.symm
  · exact (Prod.mk.inj handled).1.symm

theorem disconnect_queued {o : Origin}
    (reacted : w.reaction (system env) (w.results mv.full) mv.label = some (s, es))
    (queued : .emit (.queued o .disconnect) ∈ es) :
    ∃ msg : Disconnect, mv.label = .take .disconnect ⟨o, .request (.disconnect msg)⟩ ∧
      (msg.force || w.state.packetSendFinished) := by
  rcases queued_reaction reacted queued with ⟨a, b, handles, sends⟩ |
    ⟨id, packet, retryCount, answer, -, same⟩
  · generalize same : VariablePacket.disconnect = packet at sends
    cases sends with
    | attempt attempts => cases attempts <;> cases same
    | disconnect msg self through =>
        obtain rfl : a = .disconnect := self
        rcases handles.label_eq with label | ⟨notice, -, owner, -⟩
        · exact ⟨msg, label, through⟩
        · cases notice <;> cases owner
    | _ => cases same
  · cases same

theorem disconnect_resend {o : Origin} {deadline : Nat} {req : Request} (holds : genuine.Holds w)
    (reacted : w.reaction (system env) (w.results mv.full) mv.label = some (s, es))
    (again : .spawn ⟨o, .resend deadline .disconnect req⟩ ∈ es) : .halt .disconnect ∈ es := by
  have source := holds.source reacted
  have leaves {ctx : Ctx} {b : Body}
      (produces : Produces env ctx w.state b (.spawn ⟨o, .resend deadline .disconnect req⟩)) :
      ctx.self = .disconnect ∧ ∃ msg : Disconnect, b = .request (.disconnect msg) ∧
        (msg.force || w.state.packetSendFinished) := by
    generalize shape : (Effect.spawn ⟨o, .resend deadline .disconnect req⟩ : ClientEffect) = e
      at produces
    cases produces with
    | resend retries =>
        have self : ctx.self = .disconnect := by simp_all
        refine ⟨self, ?_⟩
        cases retries with
        | attempt attempts => cases attempts <;> simp_all
        | recv1 packet id retryCount self' => simp_all
        | response packet retryCount response =>
            rw [self] at response
            cases response
        | disconnect msg self' through => exact ⟨msg, rfl, through⟩
    | _ => cases shape
  obtain ⟨label, full⟩ := mv
  cases reaction_causes reacted _ again with
  | take self m produces =>
      obtain ⟨o', b⟩ := m
      obtain ⟨self', msg, rfl, through⟩ := leaves produces
      obtain rfl : self = .disconnect := self'
      have left := disconnect_reaction rfl reacted
      rw [if_pos through] at left
      exact left.1
  | run t runs =>
      obtain ⟨o', job⟩ := t
      cases runs with
      | notify notice produces => cases notice <;> cases (leaves produces).1
      | resumed future answer continues =>
          cases continues with
          | timeout future dst req => cases source.2
  | arrive o' arrives => cases arrives

theorem disconnect_state (other : ∀ m, mv.label ≠ .take .disconnect m)
    (reacted : w.reaction (system env) (w.results mv.full) mv.label = some (s, es)) :
    s.packetSendFinished = w.state.packetSendFinished ∧
      s.pendingDisconnect = w.state.pendingDisconnect := by
  rcases state_step reacted with ⟨a, m, label, changed⟩ | ⟨-, changed⟩
  · cases a
    case disconnect => exact absurd label (other m)
    all_goals
      simp only [State.ChangedBy] at changed
      rw [changed]
      exact ⟨rfl, rfl⟩
  · rw [changed]
    exact ⟨rfl, rfl⟩

theorem publishStatus_state
    (reacted : w.reaction (system env) (w.results mv.full) mv.label = some (s, es)) :
    s.publishStatus = w.state.publishStatus ∨
      ∃ o op future, mv.label = .take .publishStatus ⟨o, .publishStatus op future⟩ := by
  rcases state_step reacted with ⟨a, ⟨o, b⟩, label, changed⟩ | ⟨-, changed⟩
  · cases a
    case publishStatus =>
        cases b with
        | publishStatus op future => exact .inr ⟨o, op, future, label⟩
        | _ =>
            have handled := (World.reaction_take.mp (label ▸ reacted)).2.2
            exact .inl (congrArg State.publishStatus (Prod.mk.inj handled).1).symm
    all_goals
      simp only [State.ChangedBy] at changed
      exact .inl (by rw [changed])
  · exact .inl (by rw [changed])

/-! ## What DisconnectActor knows -/

/-- The messages for DisconnectActor, oldest first. -/
def reports (w : ClientWorld) : List Body := (w.mail .disconnect).map (·.body)

/-- The last report on its way to DisconnectActor is right, and no call is on its way back. -/
structure Informed (w : ClientWorld) : Prop where
  report : latestReport w.state.packetSendFinished (reports w) =
    (w.state.publishStatus.keys.length == 0)
  resend : ∀ o deadline req, ⟨o, .resend deadline .disconnect req⟩ ∉ w.tasks

theorem informed_init (env : Env) (seed : Nat) : Informed (init env seed) where
  report := rfl
  resend o deadline req member := by simp [init] at member

theorem latestReport_same {known : Bool} {bodies : List Body}
    (same : ∀ msg, .packetSendStatus msg ∈ bodies → msg.finished = known) :
    latestReport known bodies = known := by
  induction bodies with
  | nil => rfl
  | cons b bodies ih =>
      have rest := ih (fun msg member => same msg (List.mem_cons_of_mem _ member))
      cases b with
      | packetSendStatus msg => rw [latestReport, same msg List.mem_cons_self, rest]
      | _ => exact rest

theorem latestReport_take {o : Origin} {b : Body} {bodies : List Body}
    (label : mv.label = .take .disconnect ⟨o, b⟩)
    (reacted : w.reaction (system env) (w.results mv.full) mv.label = some (s, es)) :
    latestReport s.packetSendFinished bodies =
      latestReport w.state.packetSendFinished (b :: bodies) := by
  by_cases report : ∃ msg, b = .packetSendStatus msg
  · obtain ⟨msg, rfl⟩ := report
    rw [(report_reaction label reacted).1, latestReport]
  · have report : ∀ msg, b ≠ .packetSendStatus msg := not_exists.mp report
    rw [latestReport.eq_3 _ _ _ report]
    by_cases call : ∃ msg, b = .request (.disconnect msg)
    · obtain ⟨msg, rfl⟩ := call
      have left := disconnect_reaction label reacted
      split at left <;> rw [left.2]
    · rw [idle_reaction label reacted report (not_exists.mp call)]

theorem Tells.not_report {l : Label Actor Msg Task Input} {msg : PacketSendStatus}
    (tells : Tells w s l (.packetSendStatus msg)) :
    (∃ m, l = .take .publishStatus m) ∧ msg.finished = (s.publishStatus.keys.length == 0) := by
  cases tells with
  | report m => exact ⟨⟨m, rfl⟩, rfl⟩

theorem informed_step (holds : genuine.Holds w) (informed : Informed w)
    (taken : clientStep env w mv = some w') (alive : w'.live .disconnect) : Informed w' := by
  obtain ⟨s, es, reacted, same⟩ := World.fire_eq_some.mp taken
  have running : .halt .disconnect ∉ es := World.not_halt_of_live reacted taken alive
  constructor
  · rw [World.fire_state reacted taken]
    have told : ∀ msg, .packetSendStatus msg ∈ (posts .disconnect es).map (·.body) →
        (∃ m, mv.label = .take .publishStatus m) ∧
          msg.finished = (s.publishStatus.keys.length == 0) := by
      intro msg member
      obtain ⟨m, posted, body⟩ := List.mem_map.mp member
      have tells := tells_of_post holds reacted (mem_posts.mp posted)
      rw [body] at tells
      exact tells.not_report
    rcases World.fire_mail reacted taken alive with ⟨⟨o, b⟩, rest, label, before, after⟩ |
      ⟨other, after⟩
    · have known := informed.report
      rw [reports, before, List.map_cons, ← latestReport_take label reacted] at known
      have map : s.publishStatus = w.state.publishStatus :=
        (publishStatus_state reacted).resolve_right fun ⟨o, op, future, label'⟩ => by
          rw [label] at label'
          cases label'
      rw [reports, after, List.map_append, latestReport_append, known, map]
      exact latestReport_same fun msg member => map ▸ (told msg member).2
    · rw [reports, after, List.map_append, latestReport_append,
        (disconnect_state other reacted).1, ← reports, informed.report]
      rcases publishStatus_state reacted with map | ⟨o, op, future, label⟩
      · rw [← map]
        exact latestReport_same fun msg member => (told msg member).2
      · obtain ⟨rfl, rfl⟩ := publishStatus_reaction (label ▸ reacted)
        cases future <;> simp [posts, latestReport]
  · intro o deadline req member
    rw [same] at member
    rcases World.mem_tasks_applyAll _ _ member with before | spawned | ⟨a, m, -, left, -⟩
    · refine informed.resend o deadline req ?_
      cases label : mv.label with
      | run t =>
          rw [label] at before
          exact List.mem_of_mem_erase before
      | take a m | give i =>
          rw [label] at before
          exact before
    · exact running (disconnect_resend holds reacted spawned)
    · obtain ⟨future, -, same⟩ := orphan_reply left
      cases same

theorem unfinished_step
    (before : w.state.pendingDisconnect → w.state.packetSendFinished = false)
    (taken : clientStep env w mv = some w') (alive : w'.live .disconnect) :
    w'.state.pendingDisconnect → w'.state.packetSendFinished = false := by
  obtain ⟨s, es, reacted, same⟩ := World.fire_eq_some.mp taken
  have running : .halt .disconnect ∉ es := World.not_halt_of_live reacted taken alive
  rw [World.fire_state reacted taken]
  by_cases own : ∃ m, mv.label = .take .disconnect m
  · obtain ⟨⟨o, b⟩, label⟩ := own
    by_cases report : ∃ msg, b = .packetSendStatus msg
    · obtain ⟨msg, rfl⟩ := report
      obtain ⟨finished, rest⟩ := report_reaction label reacted
      intro pending
      split at rest
      · rw [rest] at pending
        cases pending
      · rename_i waits
        rw [rest.1] at pending
        simpa [finished, pending] using waits
    · by_cases call : ∃ msg, b = .request (.disconnect msg)
      · obtain ⟨msg, rfl⟩ := call
        have left := disconnect_reaction label reacted
        split at left
        · exact absurd left.1 running
        · rename_i waits
          intro _
          rw [left.2]
          simpa using (not_or.mp (mt (Bool.or_eq_true _ _).mpr waits)).2
      · rw [idle_reaction label reacted (not_exists.mp report) (not_exists.mp call)]
        exact before
  · obtain ⟨finished, pending⟩ := disconnect_state (not_exists.mp own) reacted
    rw [finished, pending]
    exact before

/-! ## Waiting -/

/-- While something is owed and the map has an entry, DisconnectActor stays. -/
def Waiting (w : ClientWorld) : Prop :=
  owed w.log = [] ∨ w.state.publishStatus.keys = [] ∨
    keepsWaiting w.state.packetSendFinished w.state.pendingDisconnect (reports w)

theorem Waiting.keeps (waiting : Waiting w) (known : pendingKnown w mv) (left : owed w.log ≠ []) :
    keepsWaiting w.state.packetSendFinished w.state.pendingDisconnect (reports w) := by
  have entry : w.state.publishStatus.keys ≠ [] := by
    have := ((Bool.and_eq_true _ _).mp known).1
    simpa [left] using this
  exact (waiting.resolve_left left).resolve_left entry

theorem Tells.quiet {l : Label Actor Msg Task Input} {b : Body} (tells : Tells w s l b)
    (entry : s.publishStatus.keys ≠ []) (graceful : ∀ n, l ≠ .give (.cause ⟨n, .disconnect ⟨true⟩⟩))
    (again : ∀ o deadline req, l ≠ .run ⟨o, .resend deadline .disconnect req⟩)
    (waits : ∀ o msg, l = .take .disconnect ⟨o, .packetSendStatus msg⟩ →
      ¬ (w.state.pendingDisconnect && msg.finished)) : b.quiet := by
  cases tells with
  | report m =>
      have unfinished : (s.publishStatus.keys.length == 0) = false := by simpa using entry
      exact .inl (by rw [unfinished])
  | call serial msg =>
      obtain ⟨force⟩ := msg
      cases force with
      | true => exact absurd rfl (graceful serial)
      | false => exact .inr (.inl rfl)
  | insist o msg waiting => exact absurd waiting (waits o msg rfl)
  | again o deadline req => exact absurd rfl (again o deadline req)
  | stop m => exact .inr (.inr rfl)

/-- DisconnectActor goes on waiting over a step, with the messages that the step adds. -/
theorem keepsWaiting_step (holds : genuine.Holds w) (informed : Informed w)
    (waits : keepsWaiting w.state.packetSendFinished w.state.pendingDisconnect (reports w))
    (entry : s.publishStatus.keys ≠ []) (graceful : ¬ forced w'.log)
    (taken : clientStep env w mv = some w')
    (reacted : w.reaction (system env) (w.results mv.full) mv.label = some (s, es))
    (alive : w'.live .disconnect) :
    keepsWaiting s.packetSendFinished s.pendingDisconnect (reports w') := by
  have unforced : ∀ n, mv.label ≠ .give (.cause ⟨n, .disconnect ⟨true⟩⟩) := fun n label => by
    rw [World.fire_log reacted taken, label] at graceful
    simp [forced, Label.record] at graceful
  have once : ∀ o deadline req, mv.label ≠ .run ⟨o, .resend deadline .disconnect req⟩ :=
    fun o deadline req label =>
      informed.resend o deadline req (World.reaction_run.mp (label ▸ reacted)).1
  have quiet (waits : ∀ o msg, mv.label = .take .disconnect ⟨o, .packetSendStatus msg⟩ →
      ¬ (w.state.pendingDisconnect && msg.finished)) :
      ∀ b ∈ (posts .disconnect es).map (·.body), b.quiet := by
    intro b member
    obtain ⟨m, posted, rfl⟩ := List.mem_map.mp member
    exact (tells_of_post holds reacted (mem_posts.mp posted)).quiet entry unforced once waits
  rcases World.fire_mail reacted taken alive with ⟨⟨o, b⟩, rest, label, before, after⟩ |
    ⟨other, after⟩
  · rw [reports, before, List.map_cons] at waits
    rw [reports, after, List.map_append]
    by_cases report : ∃ msg, b = .packetSendStatus msg
    · obtain ⟨msg, rfl⟩ := report
      obtain ⟨stays, rest⟩ := (Bool.and_eq_true _ _).mp waits
      obtain ⟨finished, stays'⟩ := report_reaction label reacted
      rw [if_neg (by simpa [imp_iff_not_or] using stays)] at stays'
      obtain ⟨pending, rfl⟩ := stays'
      rw [finished, pending]
      exact keepsWaiting_append rest (fun b member => absurd member List.not_mem_nil)
    · have report : ∀ msg, b ≠ .packetSendStatus msg := not_exists.mp report
      by_cases call : ∃ msg, b = .request (.disconnect msg)
      · obtain ⟨msg, rfl⟩ := call
        obtain ⟨stays, rest⟩ := (Bool.and_eq_true _ _).mp waits
        have left := disconnect_reaction label reacted
        rw [if_neg (by simpa using stays)] at left
        obtain ⟨rfl, rfl⟩ := left
        exact keepsWaiting_append rest (fun b member => absurd member List.not_mem_nil)
      · rw [keepsWaiting.eq_4 _ _ _ _ report (not_exists.mp call)] at waits
        rw [idle_reaction label reacted report (not_exists.mp call)]
        refine keepsWaiting_append waits (quiet fun o' msg same => ?_)
        rw [label] at same
        cases same
        exact absurd rfl (report msg)
  · obtain ⟨finished, pending⟩ := disconnect_state other reacted
    rw [reports, after, List.map_append, finished, pending]
    exact keepsWaiting_append waits (quiet fun o msg label => absurd label (other _))

theorem not_gave_emitted {es : List Event} (n : Nat) :
    .gave (.cause ⟨n, .disconnect ⟨false⟩⟩) ∉ (es.map .emitted : ClientLog) := by
  intro member
  obtain ⟨e, -, same⟩ := List.mem_map.mp member
  cases same

theorem owed_nil {l : Label Actor Msg Task Input} {log : ClientLog} {es : List Event}
    (other : ∀ n, l ≠ .give (.cause ⟨n, .disconnect ⟨false⟩⟩)) (nothing : owed log = []) :
    owed (es.map .emitted ++ l.record :: log) = [] := by
  refine List.eq_nil_iff_forall_not_mem.mpr fun o member => ?_
  rw [List.append_cons] at member
  have left := owed_append (fun n there => ?_) member
  · rw [nothing] at left
    cases left
  · rcases List.mem_append.mp there with emitted | now
    · exact not_gave_emitted n emitted
    · cases l <;> cases List.mem_singleton.mp now
      exact other n rfl

theorem waiting_step (holds : genuine.Holds w) (informed : Informed w) (waiting : Waiting w)
    (known : pendingKnown w mv) (graceful : ¬ forced w'.log)
    (taken : clientStep env w mv = some w') (alive : w'.live .disconnect) : Waiting w' := by
  obtain ⟨s, es, reacted, -⟩ := World.fire_eq_some.mp taken
  have state := World.fire_state reacted taken
  have log := World.fire_log reacted taken
  by_cases entry : s.publishStatus.keys = []
  · exact .inr (.inl (state ▸ entry))
  by_cases left : owed w.log = []
  · by_cases call : ∃ n, mv.label = .give (.cause ⟨n, .disconnect ⟨false⟩⟩)
    · obtain ⟨n, label⟩ := call
      have earlier := ((Bool.and_eq_true _ _).mp known).2
      rw [label] at earlier log
      rcases (Bool.or_eq_true _ _).mp earlier with covered | fresh
      · refine .inl (List.eq_nil_iff_forall_not_mem.mpr fun o member => ?_)
        rw [log] at member
        obtain ⟨back, unconfirmed, pursued⟩ := mem_owed.mp (owed_append not_gave_emitted member)
        have before : o ∈ owed w.log := mem_owed.mpr
          ⟨by simpa using List.all_eq_true.mp covered o back, unconfirmed, pursued⟩
        rw [left] at before
        cases before
      · obtain ⟨idle, calm⟩ := (Bool.and_eq_true _ _).mp fresh
        have pending : w.state.pendingDisconnect = false := by simpa using idle
        have map : s.publishStatus = w.state.publishStatus :=
          (publishStatus_state reacted).resolve_right fun ⟨o, op, future, label'⟩ => by
            rw [label] at label'
            cases label'
        have report := informed.report
        rw [← map, show (s.publishStatus.keys.length == 0) = false by simpa using entry] at report
        have waits := keepsWaiting_of_latestReport (fun msg member => by
          obtain ⟨m, there, body⟩ := List.mem_map.mp member
          have := List.all_eq_true.mp calm m there
          simp [body] at this) report
        rw [← pending] at waits
        exact .inr (.inr (state ▸ keepsWaiting_step holds informed waits entry graceful taken
          reacted alive))
    · rw [Waiting, log]
      exact .inl (owed_nil (not_exists.mp call) left)
  · exact .inr (.inr (state ▸ keepsWaiting_step holds informed (waiting.keeps known left) entry
      graceful taken reacted alive))

theorem nothing_owed {o : Origin} (informed : w.live .disconnect → Waiting w)
    (known : pendingKnown w mv)
    (reacted : w.reaction (system env) (w.results mv.full) mv.label = some (s, es))
    (queued : .emit (.queued o .disconnect) ∈ es) : owed w.log = [] := by
  obtain ⟨msg, label, through⟩ := disconnect_queued reacted queued
  obtain ⟨alive, head, -⟩ := World.reaction_take.mp (label ▸ reacted)
  by_contra left
  have waits := (informed alive).keeps known left
  obtain ⟨rest, mail⟩ := List.head?_eq_some_iff.mp head
  rw [reports, mail] at waits
  exact absurd through (by simpa using ((Bool.and_eq_true _ _).mp waits).1)

end Step

/-- While the publish status map has an entry for as long as a publish is owed, and calls of
    `disconnect(false)` for new publishes do not overlap, DISCONNECT is queued only when every
    publish that `disconnect(false)` waits for is confirmed or given up. -/
theorem disconnect_waits {env : Env} {seed : Nat} {ls : List ClientMove} {w : ClientWorld}
    (allowed : Along (clientStep env) (fun w mv => pendingKnown w mv) (init env seed) ls)
    (run : Run env seed ls w) (graceful : ¬ forced w.log) {o : Origin} {later earlier : ClientLog}
    (queued : w.log = later ++ .emitted (.queued o .disconnect) :: earlier) : owed earlier = [] := by
  have invariant : genuine.Holds w ∧ (w.live .disconnect → Informed w) ∧ (¬ forced w.log →
      (w.live .disconnect → Waiting w) ∧ ∀ o later earlier,
        w.log = later ++ .emitted (.queued o .disconnect) :: earlier → owed earlier = []) := by
    refine exec_invariant (fun w => genuine.Holds w ∧ (w.live .disconnect → Informed w) ∧
      (¬ forced w.log → (w.live .disconnect → Waiting w) ∧ ∀ o later earlier,
        w.log = later ++ .emitted (.queued o .disconnect) :: earlier → owed earlier = [])) ?_
      ⟨genuine_init env seed, fun _ => informed_init env seed, fun _ => ⟨fun _ => .inl rfl,
        fun o later earlier split => by simp [init] at split⟩⟩ allowed run
    rintro w mv w' ⟨holds, informed, waiting⟩ known taken
    refine ⟨genuine_step holds taken,
      fun alive => informed_step holds (informed (World.fire_live_le taken alive)) taken alive,
      fun graceful => ?_⟩
    obtain ⟨s, es, reacted, -⟩ := World.fire_eq_some.mp taken
    have before : ¬ forced w.log := fun called => graceful (by
      obtain ⟨r, member, call⟩ := List.any_eq_true.mp called
      rw [World.fire_log reacted taken]
      exact List.any_eq_true.mpr
        ⟨r, List.mem_append_right _ (List.mem_cons_of_mem _ member), call⟩)
    obtain ⟨waiting, past⟩ := waiting before
    refine ⟨fun alive => ?_, fun o later earlier split => ?_⟩
    · have alive' := World.fire_live_le taken alive
      exact waiting_step holds (informed alive') (waiting alive') known graceful taken alive
    · rcases World.fire_split_emitted reacted taken split with ⟨front, split⟩ |
        ⟨front, back, emitted, rfl⟩
      · exact past o front earlier split
      · have queued : .emit (.queued o .disconnect) ∈ es := mem_emits.mp (by simp [emitted])
        have nothing := nothing_owed waiting known reacted queued
        obtain ⟨msg, label, -⟩ := disconnect_queued reacted queued
        exact owed_nil (fun n same => by cases label.symm.trans same) nothing
  exact (invariant.2.2 graceful).2 o later earlier queued

/-- A publish that is acknowledged while `disconnect(false)` waits for it. -/
def acknowledgedInTime : List Turn :=
  [.give (.cause ⟨1, .publish "topic" .level1 [1]⟩), .handle .sendPublish, .handle .publishStatus,
    .handle .disconnect, .give (.cause ⟨2, .disconnect ⟨false⟩⟩), .handle .disconnect,
    .give (.cause ⟨3, .received (.puback 1) 0⟩), .handle .dispatch, .handle .puback,
    .handle .publishStatus, .handle .disconnect, .handle .disconnect]

theorem disconnect_waits_acknowledgedInTime :
    ∃ w earlier, Run plainEnv 0 (schedule plainEnv (init plainEnv 0) acknowledgedInTime) w ∧
      w.log = .emitted (.queued ⟨3, .received (.puback 1) 0⟩ .disconnect) :: earlier ∧
      returned earlier = [⟨1, .publish "topic" .level1 [1]⟩] ∧ owed earlier = [] := by
  obtain ⟨w, earlier, run, graceful, queued, publish⟩ :
      ∃ w earlier, Run plainEnv 0 (schedule plainEnv (init plainEnv 0) acknowledgedInTime) w ∧
        ¬ forced w.log ∧
        w.log = .emitted (.queued ⟨3, .received (.puback 1) 0⟩ .disconnect) :: earlier ∧
        returned earlier = [⟨1, .publish "topic" .level1 [1]⟩] :=
    ⟨_, _, rfl, by decide, rfl, rfl⟩
  exact ⟨w, earlier, run, queued, publish,
    disconnect_waits (by decide +kernel) run graceful (show w.log = [] ++ _ from queued)⟩

/-- The timer of a publish reads and removes the entry while `disconnect(false)` waits. -/
def betweenAttempts : List Turn :=
  [.give (.cause ⟨1, .publish "topic" .level1 [1]⟩), .handle .sendPublish, .handle .publishStatus,
    .handle .disconnect, .give (.cause ⟨2, .disconnect ⟨false⟩⟩), .handle .disconnect,
    .give (.advance commandTimeout), .task 0, .task 0, .handle .publishStatus, .handle .disconnect,
    .handle .disconnect]

/-- DISCONNECT is queued before the publish is sent again. -/
theorem disconnect_too_early :
    ∃ w earlier, Run plainEnv 0 (schedule plainEnv (init plainEnv 0) betweenAttempts) w ∧
      ¬ forced w.log ∧
      w.log = .emitted (.queued ⟨1, .publish "topic" .level1 [1]⟩ .disconnect) :: earlier ∧
      owed earlier = [⟨1, .publish "topic" .level1 [1]⟩] :=
  ⟨_, _, rfl, by decide, rfl, by decide⟩

/-! ## No report is lost -/

theorem mem_of_latestReport {finished : Bool} {bodies : List Body}
    (other : latestReport finished bodies ≠ finished) :
    .packetSendStatus ⟨latestReport finished bodies⟩ ∈ bodies := by
  fun_induction latestReport finished bodies with
  | case1 finished => exact absurd rfl other
  | case2 finished msg bodies ih =>
      by_cases same : latestReport msg.finished bodies = msg.finished
      · rw [same]
        exact List.mem_cons_self
      · exact List.mem_cons_of_mem _ (ih same)
  | case3 finished b bodies report ih => exact List.mem_cons_of_mem _ (ih other)

/-- What a live DisconnectActor has been told, and what it has not been told. -/
structure Attentive (w : ClientWorld) : Prop where
  genuine : genuine.Holds w
  informed : w.live .disconnect → Informed w
  unfinished : w.live .disconnect →
    w.state.pendingDisconnect → w.state.packetSendFinished = false

theorem attentive_run {env : Env} {seed : Nat} {ls : List ClientMove} {w : ClientWorld}
    (run : Run env seed ls w) : Attentive w := by
  refine exec_preserves ?_ ⟨genuine_init env seed, fun _ => informed_init env seed, nofun⟩ run
  intro w mv w' attentive taken
  constructor
  · exact genuine_step attentive.genuine taken
  · intro alive
    exact informed_step attentive.genuine (attentive.informed (World.fire_live_le taken alive))
      taken alive
  · intro alive
    exact unfinished_step (attentive.unfinished (World.fire_live_le taken alive)) taken alive

/-- The last report on its way to a live DisconnectActor, or what it knows when there is none,
    tells whether the map is empty; a disconnect that waits has not been told so; so when one
    waits and the map is empty, the report of this is on its way. -/
theorem no_lost_wakeup {env : Env} {seed : Nat} {ls : List ClientMove} {w : ClientWorld}
    (run : Run env seed ls w) (alive : w.live .disconnect) :
    latestReport w.state.packetSendFinished (reports w) =
        (w.state.publishStatus.keys.length == 0) ∧
      (w.state.pendingDisconnect → w.state.packetSendFinished = false) ∧
      (w.state.pendingDisconnect → w.state.publishStatus.keys = [] →
        .packetSendStatus ⟨true⟩ ∈ reports w) := by
  have attentive := attentive_run run
  have informed := attentive.informed alive
  have unfinished := attentive.unfinished alive
  refine ⟨informed.report, unfinished, fun pending empty => ?_⟩
  have latest : latestReport w.state.packetSendFinished (reports w) = true := by
    rw [informed.report, empty]
    rfl
  rw [← latest]
  refine mem_of_latestReport ?_
  rw [latest, unfinished pending]
  decide

/-- The acknowledgement has been taken from the map, and DisconnectActor does not know it yet. -/
theorem no_lost_wakeup_acknowledged :
    ∃ w, Run plainEnv 0 (schedule plainEnv (init plainEnv 0) (acknowledgedInTime.take 10)) w ∧
      w.state.pendingDisconnect ∧ w.state.packetSendFinished = false ∧
      .packetSendStatus ⟨true⟩ ∈ reports w := by
  obtain ⟨w, run, alive, pending, empty⟩ :
      ∃ w, Run plainEnv 0 (schedule plainEnv (init plainEnv 0) (acknowledgedInTime.take 10)) w ∧
        w.live .disconnect ∧ w.state.pendingDisconnect ∧ w.state.publishStatus.keys = [] :=
    ⟨_, rfl, by decide, by decide, by decide⟩
  obtain ⟨-, unfinished, told⟩ := no_lost_wakeup run alive
  exact ⟨w, run, pending, unfinished pending, told pending empty⟩

end ActixMqtt
