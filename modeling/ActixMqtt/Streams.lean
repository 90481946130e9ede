import Mathlib.Data.List.Flatten
import ActixMqtt.Connecting
import ActixMqtt.Farewell
import ActixMqtt.Timely

/-! # What goes out to the stream and what comes in from it

SendActor encodes each packet into a buffer of its own and hands the buffer to the writer,
also when `encode` failed half way. On the way in, RecvActor and DispatchActor pass each
packet on at most once, in order, and report the packets that they cannot pass on.
-/

namespace ActixMqtt

open ActorSystem

/-! ## Out -/

/-- A packet that SendActor handles; `env` says what `encode` does with it this time. -/
structure SendCall where
  env : Env
  ctx : Ctx
  packet : VariablePacket

namespace SendCall

def out (c : SendCall) : Out := SendActor.handle c.env c.ctx c.packet

/-- What `encode` has appended to the buffer when it returns. -/
def appended (c : SendCall) : List UInt8 := (c.env.encode c.packet).1

def encodes (c : SendCall) : Bool := (c.env.encode c.packet).2.isNone

end SendCall

/-- What an event hands to the writer. -/
def Event.bytes : Event → List UInt8
  | .wrote bytes => bytes
  | _ => []

def Event.isError : Event → Bool
  | .error _ _ _ _ => true
  | _ => false

/-- The bytes that effects hand to the writer, in order. -/
def bytesOf (es : Out) : List UInt8 := (emits es).flatMap Event.bytes

def errorsOf (es : Out) : Nat := (emits es).countP Event.isError

/-- The effects of SendActor for a sequence of packets. -/
def stream (calls : List SendCall) : Out := calls.flatMap SendCall.out

/-- The complete encodings, in the order of the packets. -/
def encodings (calls : List SendCall) : List UInt8 :=
  (calls.filter SendCall.encodes).flatMap SendCall.appended

theorem bytesOf_append (es fs : Out) : bytesOf (es ++ fs) = bytesOf es ++ bytesOf fs := by
  simp [bytesOf, emits, List.filterMap_append]

theorem SendCall.bytesOf_out (c : SendCall) : bytesOf c.out = c.appended := by
  unfold SendCall.out SendActor.handle
  split <;> simp [bytesOf, emits, sendError, Event.bytes, SendCall.appended]

theorem SendCall.errorsOf_out (c : SendCall) : errorsOf c.out = if c.encodes then 0 else 1 := by
  unfold SendCall.out SendActor.handle
  split <;> rename_i failed <;>
    simp [errorsOf, emits, sendError, List.countP_cons, Event.isError, SendCall.encodes, failed]

theorem bytesOf_stream (calls : List SendCall) :
    bytesOf (stream calls) = calls.flatMap SendCall.appended := by
  induction calls with
  | nil => rfl
  | cons c calls ih =>
      rw [stream, List.flatMap_cons, bytesOf_append, c.bytesOf_out, List.flatMap_cons]
      exact congrArg _ ih

/-- Leaving elements out of a concatenation shows exactly when they contribute something. -/
theorem flatMap_filter_eq_iff {α β : Type} (f : α → List β) (p : α → Bool) (l : List α) :
    l.flatMap f = (l.filter p).flatMap f ↔ ∀ x ∈ l, p x = false → f x = [] := by
  induction l with
  | nil => simp
  | cons x l ih =>
      rw [List.forall_mem_cons, ← ih]
      cases kept : p x with
      | true => simp [kept]
      | false =>
          simp only [List.flatMap_cons, List.filter_cons, kept, Bool.false_eq_true, if_false,
            forall_const]
          constructor
          · intro same
            have shorter : ((l.filter p).flatMap f).length ≤ (l.flatMap f).length :=
              (List.filter_sublist.flatMap f).length_le
            have nothing : f x = [] := by
              have lengths := congrArg List.length same
              rw [List.length_append] at lengths
              exact List.eq_nil_of_length_eq_zero (by omega)
            exact ⟨nothing, by rwa [nothing, List.nil_append] at same⟩
          · rintro ⟨nothing, same⟩
            rw [nothing, List.nil_append, same]

/-- The stream consists of whole packets, and of a packet that fails nothing but its report is left,
    exactly when `encode` appends nothing before it fails. -/
theorem whole_packets (calls : List SendCall) :
    (bytesOf (stream calls) = encodings calls ∧
        ∀ c ∈ calls, c.encodes = false → bytesOf c.out = [] ∧ errorsOf c.out = 1) ↔
      ∀ c ∈ calls, c.encodes = false → c.appended = [] := by
  rw [bytesOf_stream, encodings, flatMap_filter_eq_iff]
  constructor
  · exact And.left
  · intro nothing
    refine ⟨nothing, fun c member failed => ⟨?_, ?_⟩⟩
    · rw [c.bytesOf_out, nothing c member failed]
    · simp [c.errorsOf_out, failed]

/-- A packet whose encoding fails after its first byte, and one that is encoded after it. -/
def brokenPacket : List SendCall :=
  [⟨{ plainEnv with encode := fun _ => ([0x30], some "") },
      ⟨.send, setupOrigin, 0, fun _ => none⟩, .publish ⟨"", .level0, []⟩⟩,
    ⟨{ plainEnv with encode := fun _ => ([0xC0, 0], none) },
      ⟨.send, setupOrigin, 0, fun _ => none⟩, .pingreq⟩]

theorem not_whole_packets : bytesOf (stream brokenPacket) = [0x30, 0xC0, 0] ∧
    encodings brokenPacket = [0xC0, 0] ∧
      bytesOf (stream brokenPacket) ≠ encodings brokenPacket := by
  decide

section Step

variable {env : Env} {w w' : ClientWorld} {mv : ClientMove} {s : State} {es : Out}

/-- The bytes that the writer was handed in a run. -/
def writtenBytes (log : ClientLog) : List UInt8 :=
  log.reverse.flatMap fun
    | .emitted e => e.bytes
    | _ => []

theorem writtenBytes_step
    (reacted : w.reaction (system env) (w.results mv.full) mv.label = some (s, es))
    (taken : clientStep env w mv = some w') :
    writtenBytes w'.log = writtenBytes w.log ++ bytesOf es := by
  have silent : (match mv.label.record with
      | .emitted e => Event.bytes e
      | _ => []) = [] := by
    cases mv.label <;> rfl
  rw [World.fire_log reacted taken, writtenBytes, List.reverse_append, List.reverse_cons,
    List.flatMap_append, List.flatMap_append, List.flatMap_singleton, silent, List.append_nil,
    ← List.map_reverse, List.reverse_reverse, List.flatMap_map]
  rfl

theorem wrote_step (reacted : w.reaction (system env) (w.results mv.full) mv.label = some (s, es))
    {bytes : List UInt8} (wrote : .emit (.wrote bytes) ∈ es) :
    ∃ o msg, mv.label = .take .send ⟨o, .request (.packet msg)⟩ := by
  obtain ⟨label, full⟩ := mv
  generalize shape : (Effect.emit (.wrote bytes) : ClientEffect) = e at wrote
  cases reaction_causes reacted e wrote with
  | take a m produces =>
      obtain ⟨o, b⟩ := m
      cases produces with
      | wrote msg bytes self =>
          obtain rfl : a = .send := self
          exact ⟨o, msg, rfl⟩
      | _ => cases shape
  | run t runs =>
      obtain ⟨o, job⟩ := t
      cases runs with
      | notify notice produces =>
          subst shape
          cases notice <;> cases produces
      | resumed future answer continues => cases continues <;> cases shape
      | _ => cases shape
  | arrive o arrives => cases arrives <;> cases shape
  | messageClosed => cases shape

theorem writtenBytes_run {seed : Nat} {ls : List ClientMove} (run : Run env seed ls w) :
    writtenBytes w.log = (written w.log).reverse.flatMap fun packet => (env.encode packet).1 := by
  refine exec_induction (motive := fun _ w => writtenBytes w.log =
    (written w.log).reverse.flatMap fun packet => (env.encode packet).1) rfl ?_ run
  intro _ w mv w' _ same taken
  obtain ⟨s, es, reacted, -⟩ := World.fire_eq_some.mp taken
  rw [writtenBytes_step reacted taken, same, World.fire_log reacted taken, written_emitted]
  by_cases writes : ∃ o msg, mv.label = .take .send ⟨o, .request (.packet msg)⟩
  · obtain ⟨o, msg, label⟩ := writes
    have handled : SendActor.handle env ⟨.send, o, w.state.now, w.results mv.full⟩ msg.packet = es :=
      (Prod.mk.inj (World.reaction_take.mp (label ▸ reacted)).2.2).2
    have bytes := SendCall.bytesOf_out ⟨env, ⟨.send, o, w.state.now, w.results mv.full⟩, msg.packet⟩
    rw [SendCall.out, handled] at bytes
    rw [bytes, label]
    simp [written, Label.record, SendCall.appended]
  · have quiet : bytesOf es = [] := by
      refine List.flatMap_eq_nil_iff.mpr fun e member => ?_
      cases e with
      | wrote bytes => exact absurd (wrote_step reacted (mem_emits.mp member)) writes
      | _ => rfl
    rw [quiet, List.append_nil, written_other]
    intro o msg same
    refine writes ⟨o, msg, ?_⟩
    cases label : mv.label <;> rw [label] at same <;> cases same
    rfl

/-- A client writes whole packets as long as no failing encoding leaves bytes behind. -/
theorem writtenBytes_whole {seed : Nat} {ls : List ClientMove} (run : Run env seed ls w) :
    writtenBytes w.log = ((written w.log).reverse.filter fun packet =>
        (env.encode packet).2.isNone).flatMap (fun packet => (env.encode packet).1) ↔
      ∀ packet ∈ written w.log, (env.encode packet).2.isNone = false →
        (env.encode packet).1 = [] := by
  rw [writtenBytes_run run, flatMap_filter_eq_iff]
  simp only [List.mem_reverse]

end Step

/-! ## In -/

/-- A packet of the broker as RecvActor passes it on. -/
def Origin.inbound : Origin → Option Msg
  | ⟨serial, .received packet message⟩ =>
      some ⟨⟨serial, .received packet message⟩, .request (.packet ⟨packet, 0⟩)⟩
  | _ => none

/-- The packet that the parser produces in a step. -/
def parsedNow : Label Actor Msg Task Input → Option Msg
  | .give (.cause o) => o.inbound
  | _ => none

/-- The packets that the parser has produced, oldest first. -/
def parsed (log : ClientLog) : List Msg :=
  (log.filterMap fun
    | .gave (.cause o) => o.inbound
    | _ => none).reverse

/-- The actors that DispatchActor passes packets on to. -/
def DispatchActor.handlers : List Actor :=
  [.connack, .pingresp, .recvPublish, .puback, .pubrec, .pubrel, .pubcomp, .suback, .unsuback]

/-- Whether a packet is of the type that actor `a` handles. -/
def routed (a : Actor) (m : Msg) : Bool :=
  match m.body with
  | .request (.packet msg) => (DispatchActor.target msg.packet).map Prod.fst = some a
  | _ => false

/-- What actor `a` accepts from DispatchActor in a step. -/
def accepts (env : Env) (a : Actor) (w : ClientWorld) (mv : ClientMove) : List Msg :=
  match mv.label with
  | .take .dispatch m => posts a (handle env .dispatch m (w.results mv.full) w.state).2
  | _ => []

/-- What actor `a` accepts from DispatchActor in a run, oldest first. -/
def accepted (env : Env) (seed : Nat) (ls : List ClientMove) (a : Actor) : List Msg :=
  follow (clientStep env) (accepts env a) (init env seed) ls

def Event.reports (o : Origin) : Event → Bool
  | .error o' _ _ _ => o' = o
  | _ => false

/-- The error reports about the packet, call or tick with origin `o`. -/
def reportsFor (o : Origin) (log : ClientLog) : Nat :=
  log.countP fun
    | .emitted e => e.reports o
    | _ => false

/-- Of the packet `m` nothing is in flight but itself, on its way to DispatchActor, and
    StopMessages. -/
def untouched (m : Msg) : Local Actor Msg Task Event where
  mail a m' := m'.origin = m.origin → m'.body = .stop ∨ a = .dispatch ∧ m' = m
  task t := t.origin ≠ m.origin
  event _ := True

theorem Origin.inbound_eq_some {o : Origin} {m : Msg} (inbound : o.inbound = some m) :
    m.origin = o ∧ ∃ packet n, o.cause = .received packet n ∧
      m.body = .request (.packet ⟨packet, 0⟩) := by
  obtain ⟨serial, cause⟩ := o
  cases cause <;> cases inbound
  exact ⟨rfl, _, _, rfl, rfl⟩

theorem parsedNow_eq_some {label : Label Actor Msg Task Input} {m : Msg}
    (arriving : parsedNow label = some m) :
    label = .give (.cause m.origin) ∧ m.origin.inbound = some m := by
  unfold parsedNow at arriving
  split at arriving
  · obtain rfl := (Origin.inbound_eq_some arriving).1
    exact ⟨rfl, arriving⟩
  · cases arriving

theorem mem_parsed {m : Msg} {log : ClientLog} :
    m ∈ parsed log ↔ ∃ o, .gave (.cause o) ∈ log ∧ o.inbound = some m := by
  simp only [parsed, List.mem_reverse, List.mem_filterMap]
  constructor
  · rintro ⟨r, member, inbound⟩
    split at inbound
    · exact ⟨_, member, inbound⟩
    · cases inbound
  · rintro ⟨o, member, inbound⟩
    exact ⟨_, member, inbound⟩

theorem untouched_keeps (env : Env) {m : Msg} (request : ∃ req, m.body = .request req) :
    (untouched m).Keeps (system env) := by
  rintro a ⟨o, b⟩ holds t left same
  obtain ⟨req, shape⟩ := request
  rcases holds ((orphan_origin left).symm.trans same) with rfl | ⟨-, rfl⟩
  · cases left
  · cases shape
    cases left

section Step

variable {env : Env} {w w' : ClientWorld} {mv : ClientMove} {s : State} {es : Out} {m : Msg}

theorem parsed_step (reacted : w.reaction (system env) (w.results mv.full) mv.label = some (s, es))
    (taken : clientStep env w mv = some w') :
    parsed w'.log = parsed w.log ++ (parsedNow mv.label).toList := by
  rw [World.fire_log reacted taken, parsed, List.filterMap_append, List.filterMap_eq_nil_iff.mpr]
  · rw [List.nil_append, List.filterMap_cons]
    obtain ⟨label, full⟩ := mv
    cases label with
    | take a m | run t => simp [Label.record, parsedNow, parsed]
    | give i =>
        cases i with
        | cause o => cases inbound : o.inbound <;> simp [Label.record, parsedNow, parsed, inbound]
        | messageClosed | nextIdElsewhere | advance duration =>
            simp [Label.record, parsedNow, parsed]
  · intro r emitted
    obtain ⟨e, -, rfl⟩ := List.mem_map.mp emitted
    rfl

theorem reportsFor_step
    (reacted : w.reaction (system env) (w.results mv.full) mv.label = some (s, es))
    (taken : clientStep env w mv = some w') (o : Origin) :
    reportsFor o w'.log = reportsFor o w.log + (emits es).countP (Event.reports o) := by
  rw [reportsFor, World.fire_countP reacted taken]
  · rfl
  · cases mv.label <;> rfl

theorem unreported_step
    (reacted : w.reaction (system env) (w.results mv.full) mv.label = some (s, es)) {o : Origin}
    (other : stepOrigin mv.label ≠ some o) : (emits es).countP (Event.reports o) = 0 := by
  rw [List.countP_eq_zero]
  intro e emitted reports
  cases e with
  | error o' tag kind text =>
      obtain rfl : o' = o := by simpa [Event.reports] using reports
      exact other (reported_step reacted (mem_emits.mp emitted))
  | _ => cases reports

theorem stop_reaction {a : Actor} {o : Origin} (label : mv.label = .take a ⟨o, .stop⟩)
    (reacted : w.reaction (system env) (w.results mv.full) mv.label = some (s, es)) :
    ∀ e ∈ es, (∃ dst, e = .post dst ⟨o, .stop⟩) ∨ ∃ b, e = .halt b := by
  have handled : (handleBody env ⟨a, o, w.state.now, w.results mv.full⟩ .stop w.state).2 = es :=
    (Prod.mk.inj (World.reaction_take.mp (label ▸ reacted)).2.2).2
  subst handled
  intro e member
  cases a
  case stop =>
      simp only [handleBody, StopActor.receive, StopActor.handle] at member
      split at member
      · cases member
      · rcases List.mem_append.mp member with passed | halts
        · obtain ⟨recipient, -, rfl⟩ := List.mem_map.mp passed
          exact .inl ⟨recipient, rfl⟩
        · exact .inr ⟨_, List.mem_singleton.mp halts⟩
  case recv =>
      rcases List.mem_append.mp member with halts | asks
      · exact .inr ⟨_, List.mem_singleton.mp halts⟩
      · exact .inl ⟨_, List.mem_singleton.mp asks⟩
  case message | clientStop => cases member
  all_goals exact .inr ⟨_, List.mem_singleton.mp member⟩

theorem recv_reaction {o : Origin} (label : mv.label = .give (.cause o))
    (inbound : o.inbound = some m)
    (reacted : w.reaction (system env) (w.results mv.full) mv.label = some (s, es)) :
    es = [.post .dispatch m] ∨
      ∃ tag kind text, es = [.emit (.error o tag kind text)] := by
  rw [label] at reacted
  have given : accept env (.cause o) (w.results mv.full) w.state = some (s, es) := reacted
  obtain ⟨serial, cause⟩ := o
  cases cause <;> cases inbound
  simp only [accept, arrive, Option.ite_none_left_eq_some, Option.some.injEq,
    Prod.mk.injEq] at given
  obtain ⟨-, -, -, rfl⟩ := given
  simp only [RecvActor.handle, trySend]
  cases w.results mv.full .dispatch with
  | none => exact .inl rfl
  | some e => exact .inr ⟨_, _, _, rfl⟩

theorem dispatch_reaction {a : Actor} (label : mv.label = .take .dispatch m)
    (inbound : m.origin.inbound = some m) (target : routed a m)
    (reacted : w.reaction (system env) (w.results mv.full) mv.label = some (s, es)) :
    es = [.post a m] ∨ ∃ tag kind text rest, es = .emit (.error m.origin tag kind text) :: rest ∧
      (rest = [] ∨ rest = [.post .stop ⟨m.origin, .stop⟩]) := by
  obtain ⟨-, packet, n, cause, shape⟩ := Origin.inbound_eq_some inbound
  obtain ⟨o, b⟩ := m
  obtain rfl : b = _ := shape
  have handled : DispatchActor.handle ⟨.dispatch, o, w.state.now, w.results mv.full⟩ packet = es :=
    (Prod.mk.inj (World.reaction_take.mp (label ▸ reacted)).2.2).2
  subst handled
  obtain ⟨⟨dst, name⟩, named, rfl⟩ := Option.map_eq_some_iff.mp (of_decide_eq_true target)
  simp only [DispatchActor.handle, named, trySend]
  cases w.results mv.full dst with
  | none => exact .inl rfl
  | some e =>
      cases e with
      | full => exact .inr ⟨_, _, _, [], rfl, .inl rfl⟩
      | closed => exact .inr ⟨_, _, _, _, rfl, .inr rfl⟩

theorem dispatch_unregistered (env : Env) : Actor.dispatch ∉ stopRecipients env := by
  cases clientStop : env.clientStop <;> simp [stopRecipients, clientStop]

theorem toDispatch_step (wired : Wired env w) (taken : clientStep env w mv = some w')
    (alive : w'.live .dispatch)
    (reacted : w.reaction (system env) (w.results mv.full) mv.label = some (s, es)) :
    (posts .dispatch es).Sublist (parsedNow mv.label).toList := by
  by_cases arrives : ∃ o m, mv.label = .give (.cause o) ∧ o.inbound = some m
  · obtain ⟨o, m, label, inbound⟩ := arrives
    rw [show parsedNow mv.label = some m by rw [label]; exact inbound]
    rcases recv_reaction label inbound reacted with rfl | ⟨tag, kind, text, rfl⟩ <;> simp [posts]
  · suffices none : posts .dispatch es = [] by
      rw [none]
      exact List.nil_sublist _
    refine List.eq_nil_iff_forall_not_mem.mpr fun m member => ?_
    have posted := mem_posts.mp member
    have other : m.body ≠ .stop := fun stop => by
      have known := (wired_step wired taken).flight.mail .dispatch m
        (World.mem_mail_of_post reacted taken alive posted)
      simp [ActixMqtt.wired, stop, dispatch_unregistered] at known
    cases post_step wired.genuine reacted posted with
    | handler handles produces =>
        rcases produces.post_cases with all | stop | ⟨msg, name, -, -, target, -⟩
        · cases all
        · exact other stop
        · unfold DispatchActor.target at target
          split at target <;> cases target
    | asks o future b label awaits question =>
        exact awaits.asked.2.2.2.1 (congrArg Prod.fst question)
    | resend o deadline req label asks home => exact (Request.home_ne home).2.2.1 rfl
    | retry o future answer req label asks home => exact (Request.home_ne home).2.2.1 rfl
    | note o id retryCount packet answer label qos told => cases told
    | pubrec o id retryCount packet answer label told => cases told
    | stop o told => rcases told with told | told <;> cases told
    | arrives o label arrival =>
        generalize shape : (Effect.post .dispatch m : ClientEffect) = e at arrival
        cases arrival with
        | received packet n cause =>
            obtain ⟨serial, _⟩ := o
            cases cause
            exact arrives ⟨_, _, label, rfl⟩
        | _ => cases shape

theorem accepts_sublist {a : Actor} (handler : a ∈ DispatchActor.handlers)
    (label : mv.label = .take .dispatch m) (inbound : m.origin.inbound = some m) :
    (accepts env a w mv).Sublist ([m].filter (routed a)) := by
  obtain ⟨-, packet, n, cause, shape⟩ := Origin.inbound_eq_some inbound
  obtain ⟨o, b⟩ := m
  obtain rfl : b = _ := shape
  simp only [accepts, label]
  show (posts a (DispatchActor.handle ⟨.dispatch, o, w.state.now, w.results mv.full⟩ packet)).Sublist _
  unfold DispatchActor.handle
  cases named : DispatchActor.target packet with
  | none => simp [posts]
  | some target =>
      obtain ⟨dst, name⟩ := target
      simp only [trySend]
      cases w.results mv.full dst with
      | none => by_cases here : dst = a <;> simp [posts, routed, named, here]
      | some e =>
          cases e with
          | full => simp [handleSendError, sendError, posts]
          | closed =>
              have other : Actor.stop ≠ a := by
                rintro rfl
                simp [DispatchActor.handlers] at handler
              simp [handleSendError, sendError, doSendStop, posts, other]

end Step

/-- What a run has done with the packets that were parsed. -/
structure Routing (env : Env) (seed : Nat) (ls : List ClientMove) (w : ClientWorld) : Prop where
  wired : Wired env w
  alive : w.live .dispatch
  stems : (stemming fun o => o.serial < w.state.serial).Holds w
  old : ∀ m ∈ parsed w.log, m.origin.serial < w.state.serial
  once : (parsed w.log).Nodup
  unreported : ∀ o, w.state.serial ≤ o.serial → reportsFor o w.log = 0
  queue : (inbox .dispatch w).Sublist (parsed w.log)
  passed : ∀ a ∈ DispatchActor.handlers, (accepted env seed ls a).Sublist
    ((handled .dispatch w.log).reverse.filter (routed a))
  placed : ∀ m ∈ parsed w.log, ∀ a, routed a m → m ∈ accepted env seed ls a ∨
    (untouched m).Holds w ∧ reportsFor m.origin w.log = if m ∈ w.mail .dispatch then 0 else 1

theorem routing_init (env : Env) (seed : Nat) : Routing env seed [] (init env seed) where
  wired := wired_init env seed
  alive := rfl
  stems := by
    refine ⟨fun a m member => ?_, fun t member => ?_, fun _ _ => True.intro⟩
    · simp only [init] at member
      split at member
      · obtain ⟨recipient, -, rfl⟩ := List.mem_map.mp member
        exact Nat.one_pos
      · cases member
    · obtain rfl := List.mem_singleton.mp member
      exact Nat.one_pos
  old m member := nomatch member
  once := List.nodup_nil
  unreported o unused := rfl
  queue := List.Sublist.refl []
  passed a handler := List.nil_sublist _
  placed m member := nomatch member

section Step

variable {env : Env} {seed : Nat} {ls : List ClientMove} {w w' : ClientWorld} {mv : ClientMove}
  {s : State} {es : Out} {m : Msg}

theorem Routing.inbound (routing : Routing env seed ls w) (waiting : m ∈ w.mail .dispatch) :
    m.origin.inbound = some m := by
  obtain ⟨o, -, inbound⟩ :=
    mem_parsed.mp (routing.queue.subset (List.mem_append_right _ waiting))
  rwa [(Origin.inbound_eq_some inbound).1]

theorem dispatch_live_step (wired : Wired env w) (taken : clientStep env w mv = some w')
    (alive : w.live .dispatch) : w'.live .dispatch := by
  obtain ⟨s, es, reacted, -⟩ := World.fire_eq_some.mp taken
  rw [World.fire_live reacted taken fun halted => ?_]
  · exact alive
  · rcases unregistered_halt wired reacted halted (dispatch_unregistered env) (by decide) with
      ⟨same, -⟩ | ⟨same, -⟩ <;> cases same

theorem Routing.unknown (routing : Routing env seed ls w) (taken : clientStep env w mv = some w')
    {o : Origin} (label : mv.label = .give (.cause o)) :
    (∀ m ∈ parsed w.log, m.origin ≠ o) ∧ (∀ a, ∀ m ∈ w.mail a, m.origin ≠ o) ∧
      (∀ t ∈ w.tasks, t.origin ≠ o) ∧ reportsFor o w.log = 0 := by
  have unused := ((serial_step taken).1 o label).1
  refine ⟨fun m member same => ?_, fun a m member same => ?_, fun t member same => ?_,
    routing.unreported o unused⟩
  · have := routing.old m member
    rw [same] at this
    omega
  · have : m.origin.serial < w.state.serial := routing.stems.mail a m member
    rw [same] at this
    omega
  · have : t.origin.serial < w.state.serial := routing.stems.tasks t member
    rw [same] at this
    omega

theorem accepts_eq {a : Actor} (label : mv.label = .take .dispatch m)
    (reacted : w.reaction (system env) (w.results mv.full) mv.label = some (s, es)) :
    accepts env a w mv = posts a es := by
  have handled := (World.reaction_take.mp (label ▸ reacted)).2.2
  simp only [accepts, label]
  exact congrArg (posts a ·.2) handled

theorem queue_step (routing : Routing env seed ls w) (taken : clientStep env w mv = some w') :
    (inbox .dispatch w').Sublist (parsed w'.log) := by
  obtain ⟨s, es, reacted, -⟩ := World.fire_eq_some.mp taken
  have alive := dispatch_live_step routing.wired taken routing.alive
  rw [inbox_fire reacted taken alive, parsed_step reacted taken]
  exact routing.queue.append (toDispatch_step routing.wired taken alive reacted)

theorem once_step (routing : Routing env seed ls w) (taken : clientStep env w mv = some w') :
    (parsed w'.log).Nodup := by
  obtain ⟨s, es, reacted, -⟩ := World.fire_eq_some.mp taken
  rw [parsed_step reacted taken]
  cases arriving : parsedNow mv.label with
  | none => simpa using routing.once
  | some m =>
      refine List.nodup_append.mpr ⟨routing.once, by simp, fun m' member m'' single same => ?_⟩
      obtain rfl : m'' = m := by simpa using single
      exact (routing.unknown taken (parsedNow_eq_some arriving).1).1 m' member (by rw [same])

theorem placed_dispatch {a : Actor} (routing : Routing env seed ls w)
    (taken : clientStep env w mv = some w') (label : mv.label = .take .dispatch m)
    (inbound : m.origin.inbound = some m) (target : routed a m) (calm : (untouched m).Holds w)
    (reports : reportsFor m.origin w.log = if m ∈ w.mail .dispatch then 0 else 1) :
    m ∈ accepts env a w mv ∨ (untouched m).Holds w' ∧
      reportsFor m.origin w'.log = if m ∈ w'.mail .dispatch then 0 else 1 := by
  obtain ⟨s, es, reacted, -⟩ := World.fire_eq_some.mp taken
  obtain ⟨-, packet, n, -, shape⟩ := Origin.inbound_eq_some inbound
  rcases dispatch_reaction label inbound target reacted with rfl | ⟨tag, kind, text, rest, rfl, stops⟩
  · exact .inl (by rw [accepts_eq label reacted]; simp [posts])
  · refine .inr ⟨calm.fire (untouched_keeps env ⟨_, shape⟩) reacted taken fun e member => ?_, ?_⟩
    · rcases List.mem_cons.mp member with rfl | later
      · exact True.intro
      · rcases stops with rfl | rfl
        · cases later
        · obtain rfl := List.mem_singleton.mp later
          exact fun _ => .inl rfl
    · have waited : m ∈ w.mail .dispatch :=
        List.mem_of_mem_head? (World.reaction_take.mp (label ▸ reacted)).2.1
      have gone : m ∉ w'.mail .dispatch := by
        have nodup := (queue_step routing taken).nodup (once_step routing taken)
        rw [inbox, handled_take reacted taken label, List.nodup_append] at nodup
        exact fun waiting => nodup.2.2 m (by simp) m waiting rfl
      have one : (emits (.emit (.error m.origin tag kind text) :: rest)).countP
          (Event.reports m.origin) = 1 := by
        rcases stops with rfl | rfl <;> simp [emits, Event.reports]
      rw [reportsFor_step reacted taken, one, reports, if_pos waited, if_neg gone]

/-- A packet that is waiting or has been given up stays so, until DispatchActor handles it. -/
theorem placed_step {a : Actor} (routing : Routing env seed ls w)
    (taken : clientStep env w mv = some w') (member : m ∈ parsed w.log) (target : routed a m)
    (calm : (untouched m).Holds w)
    (reports : reportsFor m.origin w.log = if m ∈ w.mail .dispatch then 0 else 1) :
    m ∈ accepts env a w mv ∨ (untouched m).Holds w' ∧
      reportsFor m.origin w'.log = if m ∈ w'.mail .dispatch then 0 else 1 := by
  obtain ⟨s, es, reacted, -⟩ := World.fire_eq_some.mp taken
  have alive := dispatch_live_step routing.wired taken routing.alive
  have inbound : m.origin.inbound = some m := by
    obtain ⟨o, -, inbound⟩ := mem_parsed.mp member
    rwa [(Origin.inbound_eq_some inbound).1]
  obtain ⟨-, packet, n, -, shape⟩ := Origin.inbound_eq_some inbound
  have kept (effects : ∀ e ∈ es, (untouched m).effect e) : (untouched m).Holds w' :=
    calm.fire (untouched_keeps env ⟨_, shape⟩) reacted taken effects
  have same (other : mv.label ≠ .take .dispatch m) (unposted : .post .dispatch m ∉ es) :
      m ∈ w'.mail .dispatch ↔ m ∈ w.mail .dispatch :=
    ⟨fun waiting => (World.mem_mail_of_fire reacted taken waiting).resolve_right unposted,
      fun waiting => World.mem_mail_fire taken alive waiting other⟩
  by_cases own : stepOrigin mv.label = some m.origin
  · have source := calm.source reacted
    obtain ⟨label, full⟩ := mv
    cases label with
    | run t => exact absurd (Option.some.inj own) source
    | give i =>
        cases i with
        | cause o => exact absurd (Option.some.inj own).symm ((routing.unknown taken rfl).1 m member)
        | messageClosed | nextIdElsewhere | advance duration => cases own
    | take b m' =>
        rcases source (Option.some.inj own) with stop | ⟨rfl, rfl⟩
        · -- StopMessages cause nothing but StopMessages
          obtain ⟨o, body⟩ := m'
          obtain rfl : body = .stop := stop
          have stops := stop_reaction rfl reacted
          refine .inr ⟨kept fun e member => ?_, ?_⟩
          · rcases stops e member with ⟨dst, rfl⟩ | ⟨a, rfl⟩
            · exact fun _ => .inl rfl
            · exact True.intro
          · have quiet : (emits es).countP (Event.reports m.origin) = 0 := by
              refine List.countP_eq_zero.mpr fun e emitted => ?_
              rcases stops _ (mem_emits.mp emitted) with ⟨dst, same⟩ | ⟨a, same⟩ <;> cases same
            rw [reportsFor_step reacted taken, quiet, reports]
            refine if_congr (same (fun taken => ?_) fun posted => ?_).symm rfl rfl
            · cases taken
              cases shape
            · rcases stops _ posted with ⟨dst, same⟩ | ⟨a, same⟩ <;> cases same
              cases shape
        · exact placed_dispatch routing taken rfl inbound target calm reports
  · have away {e : ClientEffect} (member : e ∈ es) : effectOrigin e ≠ some m.origin :=
      fun origin => own (origin_step reacted member origin)
    refine .inr ⟨kept fun e member => ?_, ?_⟩
    · cases e with
      | post dst m' => exact fun same => absurd (congrArg some same) (away member)
      | spawn t => exact fun same => absurd (congrArg some same) (away member)
      | emit event => exact True.intro
      | halt b => exact True.intro
    · rw [reportsFor_step reacted taken, unreported_step reacted own, Nat.add_zero, reports]
      refine if_congr (same (fun taken => ?_) fun posted => away posted rfl).symm rfl rfl
      rw [taken] at own
      exact own rfl

theorem placed_new (routing : Routing env seed ls w) (taken : clientStep env w mv = some w')
    (arriving : parsedNow mv.label = some m) : (untouched m).Holds w' ∧
      reportsFor m.origin w'.log = if m ∈ w'.mail .dispatch then 0 else 1 := by
  obtain ⟨s, es, reacted, -⟩ := World.fire_eq_some.mp taken
  have alive := dispatch_live_step routing.wired taken routing.alive
  obtain ⟨label, inbound⟩ := parsedNow_eq_some arriving
  obtain ⟨-, packet, n, -, shape⟩ := Origin.inbound_eq_some inbound
  obtain ⟨-, mails, tasks, unreported⟩ := routing.unknown taken label
  have calm : (untouched m).Holds w :=
    ⟨fun a m' member same => absurd same (mails a m' member), tasks, fun _ _ => True.intro⟩
  have absent : m ∉ w.mail .dispatch := fun waiting => mails _ m waiting rfl
  rw [reportsFor_step reacted taken, unreported]
  rcases recv_reaction label inbound reacted with rfl | ⟨tag, kind, text, rfl⟩
  · have waits : m ∈ w'.mail .dispatch :=
      World.mem_mail_of_post reacted taken alive List.mem_cons_self
    refine ⟨calm.fire (untouched_keeps env ⟨_, shape⟩) reacted taken fun e member => ?_, ?_⟩
    · obtain rfl := List.mem_singleton.mp member
      exact fun _ => .inr ⟨rfl, rfl⟩
    · rw [if_pos waits]
      rfl
  · have gone : m ∉ w'.mail .dispatch := fun waiting =>
      (World.mem_mail_of_fire reacted taken waiting).elim absent (by simp)
    refine ⟨calm.fire (untouched_keeps env ⟨_, shape⟩) reacted taken fun e member => ?_, ?_⟩
    · obtain rfl := List.mem_singleton.mp member
      exact True.intro
    · rw [if_neg gone]
      simp [emits, Event.reports]

theorem routing_step (routing : Routing env seed ls w) (run : Run env seed ls w)
    (taken : clientStep env w mv = some w') : Routing env seed (ls ++ [mv]) w' := by
  obtain ⟨s, es, reacted, -⟩ := World.fire_eq_some.mp taken
  have grown := serial_grows taken
  have stems : (stemming fun o => o.serial < w'.state.serial).Holds w := by
    refine routing.stems.mono ?_ ?_ fun _ known => known
    · exact fun _ m known => Nat.lt_of_lt_of_le known grown.1
    · exact fun t known => Nat.lt_of_lt_of_le known grown.1
  have longer (a : Actor) : accepted env seed (ls ++ [mv]) a =
      accepted env seed ls a ++ accepts env a w mv := follow_concat run
  refine ⟨wired_step routing.wired taken, dispatch_live_step routing.wired taken routing.alive,
    stemming_step stems grown.2 taken, ?_, once_step routing taken, ?_, queue_step routing taken,
    ?_, ?_⟩
  · intro m member
    rw [parsed_step reacted taken, List.mem_append] at member
    rcases member with before | arriving
    · exact Nat.lt_of_lt_of_le (routing.old m before) grown.1
    · exact grown.2 _ (parsedNow_eq_some (Option.mem_toList.mp arriving)).1
  · intro o unused
    rw [reportsFor_step reacted taken, routing.unreported o (grown.1.trans unused), Nat.zero_add]
    refine unreported_step reacted fun named => ?_
    have old : o.serial < w'.state.serial := stemming_origin stems grown.2 reacted named
    omega
  · intro a handler
    rw [longer]
    by_cases dispatched : ∃ m, mv.label = .take .dispatch m
    · obtain ⟨m, label⟩ := dispatched
      have waiting := List.mem_of_mem_head? (World.reaction_take.mp (label ▸ reacted)).2.1
      rw [handled_take reacted taken label, List.reverse_cons, List.filter_append]
      exact (routing.passed a handler).append
        (accepts_sublist handler label (routing.inbound waiting))
    · have nothing : accepts env a w mv = [] := by
        unfold accepts
        split
        · exact absurd ⟨_, ‹_›⟩ dispatched
        · rfl
      rw [nothing, List.append_nil, handled_other reacted taken fun m label => dispatched ⟨m, label⟩]
      exact routing.passed a handler
  · intro m member a target
    rw [longer]
    rw [parsed_step reacted taken, List.mem_append] at member
    rcases member with before | arriving
    · rcases routing.placed m before a target with done | ⟨calm, reports⟩
      · exact .inl (List.mem_append_left _ done)
      · exact (placed_step routing taken before target calm reports).imp_left
          (List.mem_append_right _)
    · exact .inr (placed_new routing taken (Option.mem_toList.mp arriving))

end Step

theorem routing_run {env : Env} {seed : Nat} {ls : List ClientMove} {w : ClientWorld}
    (run : Run env seed ls w) : Routing env seed ls w :=
  exec_induction (motive := Routing env seed) (routing_init env seed)
    (fun _ _ _ _ run routing taken => routing_step routing run taken) run

/-- Each handler accepts, in the order of arrival, some of the packets of its type, as they were
    parsed; a packet that no longer waits and was not accepted is reported exactly once. -/
theorem packets_routed {env : Env} {seed : Nat} {ls : List ClientMove} {w : ClientWorld}
    (run : Run env seed ls w) :
    (∀ a ∈ DispatchActor.handlers,
      (accepted env seed ls a).Sublist ((parsed w.log).filter (routed a))) ∧
    (parsed w.log).Nodup ∧
    ∀ m ∈ parsed w.log, ∀ a, routed a m → m ∉ w.mail .dispatch → m ∉ accepted env seed ls a →
      reportsFor m.origin w.log = 1 := by
  have routing := routing_run run
  refine ⟨fun a handler => ?_, routing.once, fun m member a target left refused => ?_⟩
  · have handled : ((handled .dispatch w.log).reverse).Sublist (parsed w.log) :=
      (List.sublist_append_left _ _).trans routing.queue
    exact (routing.passed a handler).trans (handled.filter _)
  · rw [((routing.placed m member a target).resolve_left refused).2, if_neg left]

/-- Two PUBACKs arrive; the mailbox of PubackActor is full when the second is dispatched. -/
def secondRefused : List Turn :=
  [.give (.cause ⟨1, .received (.puback 5) 0⟩), .give (.cause ⟨2, .received (.puback 6) 0⟩),
    .handle .dispatch, .refusing [.puback] (.handle .dispatch)]

theorem packets_routed_secondRefused : ∃ w,
    Run plainEnv 0 (schedule plainEnv (init plainEnv 0) secondRefused) w ∧
      reportsFor ⟨2, .received (.puback 6) 0⟩ w.log = 1 := by
  obtain ⟨w, run, there, left, refused⟩ : ∃ w,
      Run plainEnv 0 (schedule plainEnv (init plainEnv 0) secondRefused) w ∧
        ⟨⟨2, .received (.puback 6) 0⟩, .request (.packet ⟨.puback 6, 0⟩)⟩ ∈ parsed w.log ∧
        ⟨⟨2, .received (.puback 6) 0⟩, .request (.packet ⟨.puback 6, 0⟩)⟩ ∉ w.mail .dispatch ∧
        ⟨⟨2, .received (.puback 6) 0⟩, .request (.packet ⟨.puback 6, 0⟩)⟩ ∉
          accepted plainEnv 0 (schedule plainEnv (init plainEnv 0) secondRefused) .puback :=
    ⟨_, rfl, by decide, by decide, by decide⟩
  exact ⟨w, run, (packets_routed run).2.2 _ there .puback rfl left refused⟩

end ActixMqtt
