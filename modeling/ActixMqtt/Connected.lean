import ActixMqtt.Handles

/-! # What waits for the connection

A tick asks the connect status actor whether the client is connected, and only its answer
lets the rest of the chain go on: the second question, SendPing and all retries of it. So
whatever is in flight behind that answer shows that an accepting CONNACK was handled, and
the status that says so is never taken back.
-/

namespace ActixMqtt

open ActorSystem

def Request.pingPart : Request → Bool
  | .sendPing _ => true
  | _ => false

def Future.pingPart : Future → Bool
  | .pingPending _ => true
  | .statusCheck _ _ _ _ retryMsg => retryMsg.pingPart
  | _ => false

def Body.pingPart : Body → Bool
  | .request req => req.pingPart
  | .publishStatus _ (some future) | .unitStatus _ (some future) | .statusExistence _ future =>
      future.pingPart
  | _ => false

/-- The future of a tick has been told that the client is connected. -/
def Job.toldConnected : Job → Bool
  | .resumed (.pingConnected _) (.existence true) => true
  | _ => false

/-- The parts of the chain of a tick that come after the answer of the connect status actor. -/
def Job.pingPart : Job → Bool
  | .resend _ _ req => req.pingPart
  | .timer _ _ future | .spawned future => future.pingPart
  | .resumed future answer => future.pingPart || (Job.resumed future answer).toldConnected
  | .notify _ => false

/-- Nothing of a ping is in flight or has been queued unless `accepted`. -/
def pingsAfter (accepted : Prop) : Local Actor Msg Task Event where
  mail _ m := m.body.pingPart → accepted
  task t := t.job.pingPart → accepted
  event
    | .queued _ .pingreq => accepted
    | _ => True

theorem pingsAfter_keeps (env : Env) (accepted : Prop) :
    (pingsAfter accepted).Keeps (system env) := by
  rintro a ⟨o, b⟩ holds t left pings
  simp only [system, orphan] at left
  split at left
  · obtain rfl := List.mem_singleton.mp left
    exact holds (by simpa [Job.pingPart, Job.toldConnected, Body.pingPart] using pings)
  · obtain rfl := List.mem_singleton.mp left
    exact holds (by simpa [Job.pingPart, Job.toldConnected, Body.pingPart] using pings)
  · obtain rfl := List.mem_singleton.mp left
    exact holds (by simpa [Job.pingPart, Job.toldConnected, Body.pingPart] using pings)
  · cases left

section Step

variable {env : Env} {w w' : ClientWorld} {mv : ClientMove} {s : State} {es : Out} {accepted : Prop}

theorem Attempts.pingPart {ctx : Ctx} {b : Body} {a : Attempt}
    (attempts : Attempts env ctx s b a) :
    a.retry.pingPart = b.pingPart ∧ a.check.pingPart = b.pingPart ∧ a.note.pingPart = false ∧
      (a.packet = .pingreq → b.pingPart) := by
  cases attempts <;> simp [Future.pingPart, Request.pingPart, Body.pingPart]

theorem Retries.pingPart {ctx : Ctx} {b : Body} {req : Request} (retries : Retries env ctx s b req) :
    req.pingPart → b.pingPart := by
  cases retries with
  | attempt attempts => exact fun pings => attempts.pingPart.1 ▸ pings
  | _ => exact id

theorem responseTo_pingPart {a dst : Actor} {packet : VariablePacket} {op : Body}
    (response : responseTo a packet = some (dst, op)) : op.pingPart = false := by
  unfold responseTo at response
  split at response <;> cases response <;> rfl

/-- A handler goes on with a ping only when it handles one, unless it is the connect status actor
    that answers a tick. -/
theorem Produces.pingsAfter {ctx : Ctx} {b : Body} {e : ClientEffect}
    (produces : Produces env ctx s b e) (known : b.pingPart → accepted)
    (answers : ∀ o future, e = .spawn ⟨o, .resumed future (.existence true)⟩ →
      (Job.resumed future (.existence true)).toldConnected → accepted) :
    (pingsAfter accepted).effect e := by
  cases produces with
  | note attempts => exact fun pings => absurd pings (by simp [attempts.pingPart.2.2.1])
  | check attempts => exact fun pings => known (attempts.pingPart.2.1 ▸ pings)
  | send sends => exact fun pings => absurd pings (by simp [Body.pingPart, Request.pingPart])
  | @queued b packet sends =>
      show (ActixMqtt.pingsAfter accepted).event (.queued ctx.origin packet)
      cases sends with
      | attempt attempts =>
          generalize named : Attempt.packet _ = queued at *
          cases queued with
          | pingreq => exact known (attempts.pingPart.2.2.2 named)
          | _ => exact True.intro
      | _ => exact True.intro
  | resend retries => exact fun pings => known (retries.pingPart pings)
  | giveUp gives => exact fun pings => absurd pings (by cases gives <;> simp [Body.pingPart])
  | response packet retryCount response =>
      exact fun pings => absurd pings (by simp [responseTo_pingPart response])
  | answer op future self | unitAnswer op future status =>
      exact fun pings => known (by simpa [Job.pingPart, Job.toldConnected, Body.pingPart] using pings)
  | existence id future found =>
      intro pings
      rcases (Bool.or_eq_true _ _).mp pings with asked | told
      · exact known asked
      · cases found with
        | true => exact answers _ future rfl told
        | false => cases future <;> cases told
  | recv2 | connectTimer | ping => exact fun pings => absurd pings (by simp [Job.pingPart, Future.pingPart])
  | subscribe | unsubscribe => exact nofun
  | error | accept | wrote | halt | haltStop | leave | haltConnack => exact True.intro
  | _ => exact fun pings => absurd pings (by simp [Body.pingPart, Request.pingPart])

theorem Continues.pingsAfter {ctx : Ctx} {future : Future} {answer : Answer} {e : ClientEffect}
    (continues : Continues ctx future answer e) (fits : answer.Fits future)
    (known : (Job.resumed future answer).pingPart → accepted)
    (connected : ∀ n, future = .pingConnected n → (∃ e', e = .spawn e') →
      (Job.resumed future answer).toldConnected) :
    (pingsAfter accepted).effect e := by
  cases continues with
  | checked status self id check retryMsg answer passes =>
      exact fun pings => known ((Bool.or_eq_true _ _).mpr (.inl pings))
  | timeout future dst req => cases fits
  | pingPending lastRetryCount answer =>
      exact fun _ => known (by simp [Job.pingPart, connected _ rfl ⟨_, rfl⟩])
  | sendPing lastRetryCount answer => exact fun _ => known rfl
  | error | accept | queued => exact True.intro
  | _ => exact nofun

theorem pingConnected_goes_on {ctx : Ctx} {n : UInt16} {answer : Answer} {e : ClientEffect}
    (goes : e ∈ (Future.pingConnected n).resume env ctx answer) :
    (Job.resumed (.pingConnected n) answer).toldConnected := by
  simp only [Future.resume, PingreqActor.connectStatusKnown] at goes
  split at goes
  · rfl
  · cases goes

theorem toldConnected_reaction {a : Actor} {m : Msg} {o : Origin} {n : UInt16} {full : Actor → Bool}
    (known : m.body.Genuine m.origin.cause a)
    (reacted : w.reaction (system env) (w.results full) (.take a m) = some (s, es))
    (told : .spawn ⟨o, .resumed (.pingConnected n) (.existence true)⟩ ∈ es) :
    1 ∈ w.state.connectStatus := by
  obtain ⟨o', b⟩ := m
  obtain ⟨-, -, handled⟩ := World.reaction_take.mp reacted
  have produces := handleBody_produces env ⟨a, o', w.state.now, w.results full⟩ w.state b
  rw [show handleBody env _ b w.state = (s, es) from handled] at produces
  generalize shape : (Effect.spawn ⟨o, .resumed (.pingConnected n) (.existence true)⟩ :
    ClientEffect) = e at produces told
  cases produces e told with
  | existence id future found =>
      cases shape
      obtain ⟨-, question⟩ := known
      cases question
      have answered : [.spawn ⟨o', .resumed (.pingConnected n)
          (.existence (1 ∈ w.state.connectStatus))⟩] = es := congrArg Prod.snd handled
      subst answered
      simpa using told
  | _ => cases shape

/-- What is known of pings and of the connection. -/
structure PingsConnected (env : Env) (w : ClientWorld) : Prop where
  wired : Wired env w
  alive : w.live .connectStatus
  handled : connectedSoon w → .connectionAccepted ∈ handledCodes w.log
  flight : (pingsAfter (.connectionAccepted ∈ handledCodes w.log)).Holds w
  queued : ∀ later o earlier, w.log = later ++ .emitted (.queued o .pingreq) :: earlier →
    .connectionAccepted ∈ handledCodes earlier

theorem pingsConnected_init (env : Env) (seed : Nat) : PingsConnected env (init env seed) where
  wired := wired_init env seed
  alive := rfl
  handled := by
    rintro (set | ⟨m, there, -⟩)
    · cases set
    · cases there
  flight := by
    refine ⟨fun a m member => ?_, fun t member => ?_, fun e member => absurd member List.not_mem_nil⟩
    · simp only [init] at member
      split at member
      · obtain ⟨recipient, -, rfl⟩ := List.mem_map.mp member
        intro told
        cases told
      · cases member
    · obtain rfl := List.mem_singleton.mp member
      intro told
      cases told
  queued later o earlier split := by simp [init] at split

theorem pingsAfter_effects (inv : PingsConnected env w)
    (reacted : w.reaction (system env) (w.results mv.full) mv.label = some (s, es)) :
    ∀ e ∈ es, (pingsAfter (.connectionAccepted ∈ handledCodes w.log)).effect e := by
  intro e member
  have source := inv.flight.source reacted
  have genuine := inv.wired.genuine.source reacted
  obtain ⟨label, full⟩ := mv
  cases reaction_causes reacted e member with
  | take a m produces =>
      refine produces.pingsAfter source fun o future same told => ?_
      subst same
      cases future with
      | pingConnected n => exact inv.handled (.inl (toldConnected_reaction genuine reacted member))
      | _ => cases told
  | run t runs =>
      obtain ⟨o, job⟩ := t
      cases runs with
      | resend deadline dst req => exact source
      | timer deadline owner future => exact source
      | waits future refused => exact source
      | notify notice produces =>
          refine produces.pingsAfter (fun pings => ?_) fun o future same told => ?_
          · cases notice <;> cases pings
          · subst same
            cases notice <;> cases produces
      | closed future refused =>
          exact fun pings => source (by simpa [Job.pingPart, Job.toldConnected] using pings)
      | asks future accepts =>
          refine fun pings => source ?_
          cases future with
          | statusCheck status self id check retryMsg => cases status <;> exact pings
          | _ => exact pings
      | resumed future answer continues =>
          refine continues.pingsAfter genuine.2 source fun n same spawns => ?_
          subst same
          have resumed : (Future.pingConnected n).resume env _ answer = es :=
            (Prod.mk.inj (World.reaction_run.mp reacted).2.2).2
          rw [← resumed] at member
          exact pingConnected_goes_on member
  | arrive o arrives => cases arrives <;> first | exact True.intro | exact nofun
  | messageClosed => exact True.intro

theorem Handles.connected {a : Actor} {o : Origin} {b : Body} (inv : PingsConnected env w)
    (handles : Handles mv.label a o b)
    (reacted : w.reaction (system env) (w.results mv.full) mv.label = some (s, es))
    (pings : b.pingPart) : .connectionAccepted ∈ handledCodes w.log := by
  have source := inv.flight.source reacted
  rcases handles.label_eq with label | ⟨notice, -, -, rfl⟩
  · rw [label] at source
    exact source pings
  · cases notice <;> cases pings

theorem pingsConnected_step (inv : PingsConnected env w) (taken : clientStep env w mv = some w') :
    PingsConnected env w' := by
  obtain ⟨s, es, reacted, -⟩ := World.fire_eq_some.mp taken
  have effects := pingsAfter_effects inv reacted
  have kept (accepted : .connectionAccepted ∈ handledCodes w.log) :
      .connectionAccepted ∈ handledCodes w'.log := by
    rw [handledCodes_step reacted taken]
    exact List.mem_append_right _ accepted
  refine ⟨wired_step inv.wired taken, connectStatus_live_step inv.wired taken inv.alive,
    accepted_step inv.wired inv.alive inv.handled taken, ?_, fun later o earlier split => ?_⟩
  · refine (inv.flight.fire (pingsAfter_keeps env _) reacted taken effects).mono
      (fun a m known pings => kept (known pings)) (fun t known pings => kept (known pings))
      fun e known => ?_
    unfold pingsAfter at known ⊢
    dsimp only at known ⊢
    split at known
    · exact kept known
    · exact True.intro
  · rcases World.fire_split_emitted reacted taken split with ⟨before, old⟩ |
      ⟨front, back, emitted, rfl⟩
    · exact inv.queued before o earlier old
    · have now : .emit (.queued o .pingreq) ∈ es := mem_emits.mp (by simp [emitted])
      have accepted : .connectionAccepted ∈ handledCodes w.log := effects _ now
      have longer : handledCodes w.log <:+
          handledCodes (front.reverse.map .emitted ++ mv.label.record :: w.log) :=
        ((List.suffix_cons _ _).trans (List.suffix_append _ _)).filterMap _
      exact longer.subset accepted

theorem connected_step (inv : PingsConnected env w) (taken : clientStep env w mv = some w')
    (connected : 1 ∈ w.state.connectStatus) : 1 ∈ w'.state.connectStatus := by
  obtain ⟨s, es, reacted, -⟩ := World.fire_eq_some.mp taken
  rw [World.fire_state reacted taken]
  rcases connectStatus_state reacted with same | ⟨o, op, future, label⟩
  · exact same ▸ connected
  · have known := inv.wired.flight.source reacted
    rw [label] at known
    rw [connectStatus_taken label reacted, connected_handle (known rfl)]
    exact .inl connected

theorem connStatusAddr_step {c c' : Session} {mv : SessionMove} {i : Nat} {client : MqttClient}
    (taken : sessionStep env c mv = some c') (other : ∀ serial force,
      mv ≠ .call i serial (.disconnect force))
    (held : c.handles[i]? = some client) (has : client.connStatusAddr) :
    ∃ client', c'.handles[i]? = some client' ∧ client'.connStatusAddr := by
  have same (handles : c'.handles = c.handles) :
      ∃ client', c'.handles[i]? = some client' ∧ client'.connStatusAddr :=
    ⟨client, handles ▸ held, has⟩
  cases mv with
  | inner mv =>
      simp only [sessionStep] at taken
      split at taken
      · obtain ⟨w', -, rfl⟩ := Option.map_eq_some_iff.mp taken
        exact same rfl
      · cases taken
  | call j serial call =>
      obtain ⟨caller, there, called⟩ := Option.bind_eq_some_iff.mp taken
      have handles : c'.handles = call.handles c.handles j caller := by
        dsimp only at called
        split at called
        · cases called
          rfl
        · obtain ⟨w', -, rfl⟩ := Option.map_eq_some_iff.mp called
          rfl
      obtain ⟨bound, -⟩ := List.getElem?_eq_some_iff.mp held
      cases call with
      | clone =>
          refine ⟨client, ?_, has⟩
          rw [handles, Call.handles, List.getElem?_append_left bound]
          exact held
      | connect =>
          by_cases here : j = i
          · subst here
            obtain rfl := Option.some.inj (there.symm.trans held)
            exact ⟨caller.connected, by rw [handles, Call.handles, List.getElem?_set_self bound], has⟩
          · exact ⟨client, by rw [handles, Call.handles, List.getElem?_set_ne here, held], has⟩
      | disconnect force =>
          have apart : j ≠ i := fun here => other serial force (here ▸ rfl)
          refine ⟨client, ?_, has⟩
          rw [handles, Call.handles]
          split
          · rw [List.getElem?_set_ne apart, held]
          · exact held
      | subscribe | unsubscribe | publish => exact same handles

end Step

section Run

variable {env : Env} {seed : Nat} {ls : List ClientMove} {w : ClientWorld}

theorem pingsConnected_run (run : Run env seed ls w) : PingsConnected env w :=
  exec_preserves (fun _ _ _ => pingsConnected_step) (pingsConnected_init env seed) run

theorem isConnected_run {c c' : Session} {ms : List SessionMove} {i : Nat} {client client' : MqttClient}
    (inv : PingsConnected env c.world) (onwards : exec (sessionStep env) c ms = some c')
    (held : c.handles[i]? = some client) (held' : c'.handles[i]? = some client')
    (kept : ∀ serial force, .call i serial (.disconnect force) ∉ ms)
    (connected : client.isConnected c.world = .ok true) :
    client'.isConnected c'.world = .ok true := by
  have shows {client : MqttClient} {w : ClientWorld} (alive : w.live .connectStatus) :
      client.isConnected w = .ok true ↔ client.connStatusAddr ∧ 1 ∈ w.state.connectStatus := by
    cases has : client.connStatusAddr <;> simp [MqttClient.isConnected, has, alive]
  induction ms generalizing c client with
  | nil =>
      cases onwards
      obtain rfl := Option.some.inj (held.symm.trans held')
      exact connected
  | cons mv ms ih =>
      obtain ⟨mid, taken, rest⟩ := exec_cons_eq_some.mp onwards
      obtain ⟨has, there⟩ := (shows inv.alive).mp connected
      obtain ⟨next, heldNext, hasNext⟩ := connStatusAddr_step taken
        (fun serial force same => kept serial force (by simp [same])) held has
      have rule : PingsConnected env mid.world ∧ 1 ∈ mid.world.state.connectStatus := by
        rcases session_taken taken with same | ⟨mv', stepped, -⟩
        · rw [same]
          exact ⟨inv, there⟩
        · exact ⟨pingsConnected_step inv stepped, connected_step inv stepped there⟩
      exact ih rule.1 rest heldNext
        (fun serial force member => kept serial force (List.mem_cons_of_mem _ member))
        ((shows rule.1.alive).mpr ⟨hasNext, rule.2⟩)

/-- Whenever PINGREQ is queued, an accepting CONNACK was handled before. Key 1 of the connect status
    map stays for ever, and so a handle that shows a connected client goes on to do so until it is
    disconnected. -/
theorem ping_connected (run : Run env seed ls w) :
    (∀ later o earlier, w.log = later ++ .emitted (.queued o .pingreq) :: earlier →
      .connectionAccepted ∈ handledCodes earlier) ∧
    (∀ ls' w', exec (clientStep env) w ls' = some w' → 1 ∈ w.state.connectStatus →
      1 ∈ w'.state.connectStatus) ∧
    ∀ handles ms c' i client client', exec (sessionStep env) ⟨handles, w⟩ ms = some c' →
      handles[i]? = some client → c'.handles[i]? = some client' →
        (∀ serial force, .call i serial (.disconnect force) ∉ ms) →
          client.isConnected w = .ok true → client'.isConnected c'.world = .ok true := by
  have inv := pingsConnected_run run
  refine ⟨inv.queued, fun ls' w' onwards connected => ?_, fun handles ms c' i client client' onwards
    held held' kept => isConnected_run inv onwards held held' kept⟩
  have preserved (w : ClientWorld) (mv : ClientMove) (w' : ClientWorld)
      (inv : PingsConnected env w ∧ 1 ∈ w.state.connectStatus)
      (taken : clientStep env w mv = some w') :
      PingsConnected env w' ∧ 1 ∈ w'.state.connectStatus :=
    ⟨pingsConnected_step inv.1 taken, connected_step inv.1 taken inv.2⟩
  exact (exec_preserves preserved ⟨inv, connected⟩ onwards).2

end Run

/-- The first tick asks once an accepting CONNACK is registered, and pings. -/
def pingsWhenConnected : List Turn :=
  acceptedConnect ++ [.task 1, .task 0, .handle .connectStatus, .task 0, .task 0, .handle .pingStatus,
    .task 0, .handle .pingreq]

theorem ping_connected_pingsWhenConnected :
    ∃ w later o earlier, Run plainEnv 0 (schedule plainEnv (init plainEnv 0) pingsWhenConnected) w ∧
      w.log = later ++ .emitted (.queued o .pingreq) :: earlier ∧
      .connectionAccepted ∈ handledCodes earlier := by
  obtain ⟨w, later, o, earlier, run, split⟩ : ∃ w later o earlier,
      Run plainEnv 0 (schedule plainEnv (init plainEnv 0) pingsWhenConnected) w ∧
        w.log = later ++ .emitted (.queued o .pingreq) :: earlier :=
    ⟨_, [], _, _, rfl, rfl⟩
  exact ⟨w, later, o, earlier, run, split, (ping_connected run).1 later o earlier split⟩

end ActixMqtt
