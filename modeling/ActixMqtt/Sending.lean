import ActixMqtt.Messages

/-! # Sending, failing to send, and trying again

The helpers of `actors/mod.rs` and `actors/packets/mod.rs`. A `try_send` whose
error is handled and returned from takes what follows it as its last argument.
-/

namespace ActixMqtt

open ActorSystem

def sendError (ctx : Ctx) (tag : String) (kind : ErrorKind) (message : String) : Out :=
  [.emit (.error ctx.origin tag kind message)]

/-- `stop_recipient.do_send(StopMessage)` -/
def doSendStop (ctx : Ctx) : Out := [.post .stop ⟨ctx.origin, .stop⟩]

def resend (ctx : Ctx) (addr : Actor) (msg : Request) : Out :=
  [.spawn ⟨ctx.origin, .resend (ctx.now + resendDelay) addr msg⟩]

def handleSendError (ctx : Ctx) (tag : String) : SendError → Out
  | .closed =>
      sendError ctx tag .interrupted s!"[{tag}] Target mailbox is closed" ++ doSendStop ctx
  | .full => sendError ctx tag .other s!"[{tag}] Target mailbox is full"

def handleSendErrorWithResend (ctx : Ctx) (tag : String) (addr : Actor) (msg : Request) :
    SendError → Out
  | .closed =>
      sendError ctx tag .interrupted s!"[{tag}] Target mailbox is closed" ++ doSendStop ctx
  | .full =>
      sendError ctx tag .other s!"[{tag}] Target mailbox is full, will retry send" ++
        resend ctx addr msg

def handleMailboxErrorWithResend (ctx : Ctx) (tag : String) (addr : Actor) (msg : Request) :
    MailboxError → Out
  | .closed => sendError ctx tag .interrupted "Target mailbox is closed" ++ doSendStop ctx
  | .timeout => sendError ctx tag .other "Send timeout, will resend" ++ resend ctx addr msg

def trySend (ctx : Ctx) (dst : Actor) (body : Body) (failed : SendError → Out) (next : Out) : Out :=
  match ctx.res dst with
  | some e => failed e
  | none => .post dst ⟨ctx.origin, body⟩ :: next

/-- A `do_send` ignores the capacity of the mailbox and fails only when it is closed. -/
def doSend (ctx : Ctx) (dst : Actor) (body : Body) (failed : SendError → Out) (next : Out) : Out :=
  match ctx.res dst with
  | some .closed => failed .closed
  | _ => .post dst ⟨ctx.origin, body⟩ :: next

/-- The message by which SendActor gets a packet, and the note that it was queued. -/
def queuePacket (ctx : Ctx) (packet : VariablePacket) : Out :=
  [.post .send ⟨ctx.origin, .request (.packet ⟨packet, 0⟩)⟩, .emit (.queued ctx.origin packet)]

def trySendPacket (ctx : Ctx) (packet : VariablePacket) (failed : SendError → Out) (next : Out) :
    Out :=
  match ctx.res .send with
  | some e => failed e
  | none => queuePacket ctx packet ++ next

/-- A `Recipient<StatusOperationMessage<T>>`. -/
structure StatusRecipient (T : Type) where
  actor : Actor
  body : StatusOperationMessage T → Option Future → Body

def publishStatusRecipient : StatusRecipient PublishPacketStatus := ⟨.publishStatus, .publishStatus⟩

def unitStatusRecipient (actor : Actor) : StatusRecipient Unit := ⟨actor, .unitStatus⟩

def setPacketStatus {T : Type} (ctx : Ctx) (tag : String) (status : StatusRecipient T)
    (resendMsg : Request) (statusMessage : StatusOperationMessage T) (next : Out) : Out :=
  trySend ctx status.actor (status.body statusMessage none)
    (handleSendErrorWithResend ctx tag ctx.self resendMsg) next

def resetPacketStatus {T : Type} (ctx : Ctx) (tag : String) (status : StatusRecipient T)
    (id : UInt16) (resendMsg : Request) : Out :=
  trySend ctx status.actor (status.body (.removePacketStatus id) none)
    (handleSendErrorWithResend ctx tag ctx.self resendMsg) []

def sendPacket (ctx : Ctx) (tag : String) (packet : VariablePacket) (resendMsg : Request)
    (next : Out) : Out :=
  trySendPacket ctx packet (handleSendErrorWithResend ctx tag ctx.self resendMsg) next

def scheduleStatusCheck (ctx : Ctx) (status : Actor) (id : UInt16) (retryMsg : Request)
    (check : StatusCheck) : Out :=
  [.spawn ⟨ctx.origin, .timer (ctx.now + commandTimeout) (some ctx.self)
    (.statusCheck status ctx.self id check retryMsg)⟩]

/-- `status_check_func` applied to what the status actor answered. -/
def StatusCheck.passes : StatusCheck → Answer → Bool
  | .isSome, .publishStatus status => status.isSome
  | .isSome, .unitStatus status => status.isSome
  | .isPending phase, .publishStatus (some status) => status.payload = phase
  | _, _ => false

/-- The rest of the future of `schedule_status_check` once it is answered. -/
def statusChecked (ctx : Ctx) (self : Actor) (check : StatusCheck) (retryMsg : Request)
    (answer : Answer) : Out :=
  match answer with
  | .error e => handleMailboxErrorWithResend ctx "schedule_status_check" self retryMsg e
  | status => if check.passes status then [.post self ⟨ctx.origin, .request retryMsg⟩] else []

/-- The branch of `assert_valid_retry_count!` taken beyond the cap. -/
def maxRetryCountExceeded {T : Type} (ctx : Ctx) (name : String) (status : StatusRecipient T)
    (id : UInt16) : Out :=
  doSend ctx status.actor (status.body (.removePacketStatus id) none)
    (handleSendError ctx s!"{name}:status_recipient") []

/-- `PacketStatusActor::handle(StatusOperationMessage)` without its notification. -/
def PacketStatusActor.handle {T : Type} (map : PacketStatusMap T) :
    StatusOperationMessage T → PacketStatusMap T × Option (PacketStatus T)
  | .setPacketStatus id status => (map.insert id status, none)
  | .getAndRemovePacketStatus id =>
      if id ∈ map then (map.erase id, map.lookup id) else (map, none)
  | .removePacketStatus id => (map.erase id, none)

/-- To read and remove is to look up and erase, also where there is nothing to remove. -/
theorem PacketStatusActor.handle_getAndRemove {T : Type} (map : PacketStatusMap T) (id : UInt16) :
    handle map (.getAndRemovePacketStatus id) = (map.erase id, map.lookup id) := by
  simp only [handle]
  split
  · rfl
  · rename_i absent
    have same : map.erase id = map := AList.ext (List.kerase_of_notMem_keys absent)
    rw [same, AList.lookup_eq_none.mpr absent]

/-- The identifier an operation is about. -/
def StatusOperationMessage.key {T : Type} : StatusOperationMessage T → UInt16
  | .setPacketStatus id _ | .getAndRemovePacketStatus id | .removePacketStatus id => id

/-- What an operation leaves under its key. -/
def StatusOperationMessage.stored {T : Type} : StatusOperationMessage T → Option (PacketStatus T)
  | .setPacketStatus _ status => some status
  | _ => none

theorem PacketStatusActor.lookup_handle {T : Type} (map : PacketStatusMap T)
    (op : StatusOperationMessage T) (id : UInt16) :
    (handle map op).1.lookup id = if id = op.key then op.stored else map.lookup id := by
  split
  · rename_i same
    subst same
    cases op with
    | setPacketStatus id status => exact AList.lookup_insert map
    | getAndRemovePacketStatus id =>
        rw [handle_getAndRemove]
        exact AList.lookup_erase id map
    | removePacketStatus id => exact AList.lookup_erase id map
  · rename_i other
    cases op with
    | setPacketStatus id' status => exact AList.lookup_insert_ne other
    | getAndRemovePacketStatus id' =>
        rw [handle_getAndRemove]
        exact AList.lookup_erase_ne other
    | removePacketStatus id' => exact AList.lookup_erase_ne other

theorem PacketStatusActor.answer_handle {T : Type} (map : PacketStatusMap T)
    (op : StatusOperationMessage T) :
    (handle map op).2 = match op with
      | .getAndRemovePacketStatus id => map.lookup id
      | _ => none := by
  cases op with
  | getAndRemovePacketStatus id => rw [handle_getAndRemove]
  | _ => rfl

/-- Hand the answer to the future that awaits it, if there is one. -/
def reply (ctx : Ctx) (answer : Answer) : Option Future → Out
  | some future => [.spawn ⟨ctx.origin, .resumed future answer⟩]
  | none => []

end ActixMqtt
