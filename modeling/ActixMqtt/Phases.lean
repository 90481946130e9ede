import ActixMqtt.Effects

/-! # Acknowledgements and phases

The four actors that take acknowledgements of publishes act on the entry of the
identifier whatever phase it is in. An entry of another flow survives only when the
status mailbox refuses the operation.
-/

namespace ActixMqtt

open ActorSystem

/-- The identifier an acknowledgement names, and the phases that wait for it. -/
def answeredPhases : Actor → VariablePacket → Option (UInt16 × List PublishPacketStatus)
  | .puback, .puback id => some (id, [.pendingAck])
  | .pubrec, .pubrec id => some (id, [.pendingRec, .pendingComp])
  | .pubrel, .pubrel id => some (id, [.pendingRel])
  | .pubcomp, .pubcomp id => some (id, [.pendingComp])
  | _, _ => none

/-- Whether the status mailbox takes the operation: beyond their caps, PubrecActor and PubrelActor
    use `do_send`. -/
def statusAccepts (res : Actor → Option SendError) (a : Actor) (retryCount : UInt16) : Bool :=
  match res .publishStatus with
  | none => true
  | some .full => (a = .pubrec || a = .pubrel) && retryCount > maxRetryCount
  | some .closed => false

/-- The operations among some messages, carried out in order. -/
def carryOut (map : PacketStatusMap PublishPacketStatus) (ms : List Msg) :
    PacketStatusMap PublishPacketStatus :=
  ms.foldl (fun map m => match m.body with
    | .publishStatus op _ => (PacketStatusActor.handle map op).1
    | _ => map) map

/-- What an acknowledgement does to the entry it names: it notes that PUBCOMP is awaited, or
    removes the entry. -/
def acknowledgeOp (a : Actor) (id retryCount : UInt16) : StatusOperationMessage PublishPacketStatus :=
  if a = .pubrec ∧ ¬ retryCount > maxRetryCount then
    .setPacketStatus id ⟨id, retryCount, .pendingComp⟩
  else .removePacketStatus id

section Handlers

variable {ctx : Ctx}

theorem posts_reset {T : Type} (tag : String) (status : StatusRecipient T) (id : UInt16) (req : Request)
    (dst : status.actor = .publishStatus) :
    posts .publishStatus (resetPacketStatus ctx tag status id req) =
      if (ctx.res .publishStatus).isNone then
        [⟨ctx.origin, status.body (.removePacketStatus id) none⟩]
      else [] := by
  unfold resetPacketStatus trySend
  rw [dst]
  cases ctx.res .publishStatus with
  | none => simp [posts]
  | some e => cases e <;> simp [posts, handleSendErrorWithResend, sendError, doSendStop, resend]

theorem posts_maxRetryCountExceeded {T : Type} (name : String) (status : StatusRecipient T)
    (id : UInt16) (dst : status.actor = .publishStatus) :
    posts .publishStatus (maxRetryCountExceeded ctx name status id) =
      if ctx.res .publishStatus = some .closed then []
      else [⟨ctx.origin, status.body (.removePacketStatus id) none⟩] := by
  unfold maxRetryCountExceeded doSend
  rw [dst]
  cases ctx.res .publishStatus with
  | none => simp [posts]
  | some e => cases e <;> simp [posts, handleSendError, sendError, doSendStop]

theorem posts_attempt (statusTag sendTag : String) (a : Attempt) (dst : a.status = .publishStatus) :
    posts .publishStatus (a.out ctx statusTag sendTag) =
      if (ctx.res .publishStatus).isNone then [⟨ctx.origin, a.note⟩] else [] := by
  unfold Attempt.out trySend trySendPacket
  rw [dst]
  cases ctx.res .publishStatus with
  | none =>
      cases ctx.res .send with
      | none => simp [posts, queuePacket]
      | some e => cases e <;> simp [posts, handleSendErrorWithResend, sendError, doSendStop, resend]
  | some e => cases e <;> simp [posts, handleSendErrorWithResend, sendError, doSendStop, resend]

theorem posts_implSendPacketActor {M T : Type} (actor : SendPacketActor M T)
    (packet : VariablePacket) (id : UInt16) (msg : M) (dst : actor.status.actor = .publishStatus) :
    posts .publishStatus (implSendPacketActor actor ctx (some (packet, id)) msg) =
      if actor.getRetryCountFromMessage msg > maxRetryCount then
        if ctx.res .publishStatus = some .closed then []
        else [⟨ctx.origin, actor.status.body (.removePacketStatus id) none⟩]
      else if (ctx.res .publishStatus).isNone then
        [⟨ctx.origin, actor.status.body
          (actor.createStatusFromIdAndRetryCount id (actor.getRetryCountFromMessage msg)) none⟩]
      else [] := by
  by_cases above : actor.getRetryCountFromMessage msg > maxRetryCount
  · rw [if_pos above]
    simp only [implSendPacketActor, if_pos above]
    exact posts_maxRetryCountExceeded _ _ _ dst
  · rw [if_neg above, implSendPacketActor_eq actor ctx packet id msg above]
    exact posts_attempt _ _ _ dst

theorem posts_acknowledgement (env : Env) (ctx : Ctx) (s : State) {packet : VariablePacket} {id retryCount : UInt16}
    {phases : List PublishPacketStatus}
    (acknowledges : answeredPhases ctx.self packet = some (id, phases)) :
    posts .publishStatus (handleBody env ctx (.request (.packet ⟨packet, retryCount⟩)) s).2 =
      if statusAccepts ctx.res ctx.self retryCount then
        [⟨ctx.origin, .publishStatus (acknowledgeOp ctx.self id retryCount) none⟩]
      else [] := by
  obtain ⟨self, o, now, res⟩ := ctx
  dsimp only at acknowledges ⊢
  unfold answeredPhases at acknowledges
  have reset (tag : String) (req : Request) (self : Actor) (uncapped : self ≠ .pubrec ∧ self ≠ .pubrel) :
      posts .publishStatus
          (resetPacketStatus ⟨self, o, now, res⟩ tag publishStatusRecipient id req) =
        if statusAccepts res self retryCount then
          [⟨o, .publishStatus (acknowledgeOp self id retryCount) none⟩]
        else [] := by
    rw [posts_reset _ _ _ _ rfl]
    cases status : res .publishStatus with
    | none => simp [statusAccepts, acknowledgeOp, status, uncapped, publishStatusRecipient]
    | some e => cases e <;> simp [statusAccepts, status, uncapped]
  split at acknowledges <;> cases acknowledges
  · exact reset _ _ .puback (by decide)
  · refine (posts_implSendPacketActor PubrecActor.actor _ id ⟨id, retryCount⟩ rfl).trans ?_
    by_cases above : retryCount > maxRetryCount <;> cases status : res .publishStatus with
    | none => simp [statusAccepts, acknowledgeOp, status, above, PubrecActor.actor,
        publishStatusRecipient]
    | some e => cases e <;> simp [statusAccepts, acknowledgeOp, status, above, PubrecActor.actor,
        publishStatusRecipient]
  · refine (posts_implSendPacketActor PubrelActor.actor _ id ⟨id, retryCount⟩ rfl).trans ?_
    by_cases above : retryCount > maxRetryCount <;> cases status : res .publishStatus with
    | none => simp [statusAccepts, acknowledgeOp, status, above, PubrelActor.actor,
        publishStatusRecipient]
    | some e => cases e <;> simp [statusAccepts, acknowledgeOp, status, above, PubrelActor.actor,
        publishStatusRecipient]
  · exact reset _ _ .pubcomp (by decide)

end Handlers

theorem stored_acknowledgeOp {a : Actor} {packet : VariablePacket} {id retryCount : UInt16}
    {phases : List PublishPacketStatus} {status : PacketStatus PublishPacketStatus}
    (acknowledges : answeredPhases a packet = some (id, phases))
    (other : status.payload ∉ phases) : (acknowledgeOp a id retryCount).stored ≠ some status := by
  unfold answeredPhases at acknowledges
  split at acknowledges <;> cases acknowledges <;> simp only [acknowledgeOp]
  · nofun
  · split
    · intro same
      cases same
      simp at other
    · nofun
  · nofun
  · nofun

theorem key_acknowledgeOp (a : Actor) (id retryCount : UInt16) :
    (acknowledgeOp a id retryCount).key = id := by
  unfold acknowledgeOp
  split <;> rfl

/-- Whatever the map is when the status actor gets to the operation of an acknowledgement: an entry
    in a phase that does not wait for it stays as it was if and only if the status mailbox refused
    the operation. -/
theorem acknowledgement_spares {env : Env} {w : ClientWorld} {mv : ClientMove} {s : State} {es : Out}
    {a : Actor} {o : Origin} {packet : VariablePacket} {id retryCount : UInt16}
    {phases : List PublishPacketStatus}
    (handles : mv.label = .take a ⟨o, .request (.packet ⟨packet, retryCount⟩)⟩)
    (acknowledges : answeredPhases a packet = some (id, phases))
    (reacted : w.reaction (system env) (w.results mv.full) mv.label = some (s, es))
    {map : PacketStatusMap PublishPacketStatus} {status : PacketStatus PublishPacketStatus}
    (entry : map.lookup id = some status) (other : status.payload ∉ phases) :
    (carryOut map (posts .publishStatus es)).lookup id = some status ↔
      statusAccepts (w.results mv.full) a retryCount = false := by
  obtain ⟨-, -, handled⟩ := World.reaction_take.mp (handles ▸ reacted)
  have posted : posts .publishStatus es =
      if statusAccepts (w.results mv.full) a retryCount then
        [⟨o, .publishStatus (acknowledgeOp a id retryCount) none⟩]
      else [] := by
    rw [show es = _ from (congrArg Prod.snd handled).symm]
    exact posts_acknowledgement env ⟨a, o, w.state.now, w.results mv.full⟩ w.state acknowledges
  rw [posted]
  cases statusAccepts (w.results mv.full) a retryCount with
  | false => simp [carryOut, entry]
  | true =>
      simp only [if_true, carryOut, List.foldl_cons, List.foldl_nil]
      rw [PacketStatusActor.lookup_handle, key_acknowledgeOp, if_pos rfl]
      simp [stored_acknowledgeOp acknowledges other]

/-- A PUBREL under the identifier of a publish that waits for PUBACK. -/
def strayPubrel : List Turn :=
  [.give (.cause ⟨1, .publish "topic" .level1 [1]⟩), .handle .sendPublish, .handle .publishStatus,
    .give (.cause ⟨2, .received (.pubrel 1) 0⟩), .handle .dispatch]

/-- PubrelActor handles it while the status mailbox is full. -/
theorem acknowledgement_spares_strayPubrel :
    ∃ w, ∃ mv : ClientMove, ∃ s es, Run plainEnv 0 (schedule plainEnv (init plainEnv 0) strayPubrel) w ∧
      mv.label = .take .pubrel
        ⟨⟨2, .received (.pubrel 1) 0⟩, .request (.packet ⟨.pubrel 1, 0⟩)⟩ ∧
      w.reaction (system plainEnv) (w.results mv.full) mv.label = some (s, es) ∧
      (carryOut w.state.publishStatus (posts .publishStatus es)).lookup 1 =
        some ⟨1, 0, .pendingAck⟩ := by
  obtain ⟨w, mv, s, es, run, handles, reacted, entry, refuses⟩ :
      ∃ w, ∃ mv : ClientMove, ∃ s es, Run plainEnv 0 (schedule plainEnv (init plainEnv 0) strayPubrel) w ∧
        mv.label = .take .pubrel
          ⟨⟨2, .received (.pubrel 1) 0⟩, .request (.packet ⟨.pubrel 1, 0⟩)⟩ ∧
        w.reaction (system plainEnv) (w.results mv.full) mv.label = some (s, es) ∧
        w.state.publishStatus.lookup 1 = some ⟨1, 0, .pendingAck⟩ ∧
        statusAccepts (w.results mv.full) .pubrel 0 = false :=
    ⟨_, ⟨_, (· = .publishStatus)⟩, _, _, rfl, rfl, rfl, rfl, rfl⟩
  exact ⟨w, mv, s, es, run, handles, reacted,
    (acknowledgement_spares handles rfl reacted entry (by decide)).mpr refuses⟩

/-- PubrelActor handles it while the status mailbox has room: the publish is no longer waited for. -/
theorem acknowledgement_takes :
    ∃ w w', Run plainEnv 0 (schedule plainEnv (init plainEnv 0) strayPubrel) w ∧
      w.state.publishStatus.lookup 1 = some ⟨1, 0, .pendingAck⟩ ∧
      exec (clientStep plainEnv) w
        (schedule plainEnv w [.handle .pubrel, .handle .publishStatus]) = some w' ∧
      w'.state.publishStatus.lookup 1 = none :=
  ⟨_, _, rfl, rfl, rfl, rfl⟩

end ActixMqtt
