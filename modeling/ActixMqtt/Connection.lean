import ActixMqtt.Publish

/-! # Connecting, routing and stopping

The actors that open and end a connection and move packets between the stream and
the packet actors.
-/

namespace ActixMqtt

open ActorSystem

/-- `impl_stop_handler!` -/
def stopHandler (ctx : Ctx) : Out := [.halt ctx.self]

/-- Sends CONNECT and looks after `COMMAND_TIMEOUT` whether it was acknowledged. In the connect
    status map key 0 stands for connecting, key 1 for connected. -/
def ConnectActor.handle (env : Env) (ctx : Ctx) (msg : Connect) : Out :=
  let failed (tag text : String) (e : SendError) : Out :=
    sendError ctx tag .interrupted (text ++ env.sendErrorText e) ++ doSendStop ctx
  let packet : ConnectPacket := ⟨env.clientName, msg.userName, msg.password, msg.keepAlive⟩
  doSend ctx .connectStatus (.unitStatus (.setPacketStatus 0 ⟨0, 0, ()⟩) none)
      (failed "ConnectActor::status_recipient" "Failed to set packet status: ") <|
    match ctx.res .send with
    | some .closed => failed "ConnectActor::send_recipient" "Failed to send connect packet: " .closed
    | _ => queuePacket ctx (.connect packet) ++
        [.spawn ⟨ctx.origin, .timer (ctx.now + commandTimeout) (some ctx.self) .connectAck⟩]

/-- The rest of ConnectActor's timer once it is answered. -/
def ConnectActor.connectAckKnown (env : Env) (ctx : Ctx) : Answer → Out
  | .unitStatus none => [.post .connect ⟨ctx.origin, .stop⟩]
  | .error e =>
      sendError ctx "ConnectActor::status_recipient" .invalidData
          ("Failed to check connect ack status: " ++ env.mailboxErrorText e) ++
        doSendStop ctx
  | _ =>
      sendError ctx "ConnectActor::status_recipient_ack" .invalidData
          "Doesn't got connect ack from server, exit" ++
        doSendStop ctx

def ConnackActor.handle (env : Env) (ctx : Ctx) (returnCode : ConnectReturnCode) : Out :=
  match ctx.res .connectStatus with
  | some e =>
      sendError ctx "ConnackActor::status_recipient" .notConnected
          ("Failed to mark status for connack packet: " ++ env.sendErrorText e) ++
        doSendStop ctx
  | none =>
      .post .connectStatus ⟨ctx.origin, .unitStatus (.removePacketStatus 0) none⟩ ::
      if returnCode = .connectionAccepted then
        [.post .connectStatus ⟨ctx.origin, .unitStatus (.setPacketStatus 1 ⟨1, 0, ()⟩) none⟩,
          .post .connect ⟨ctx.origin, .stop⟩,
          .halt ctx.self]
      else
        sendError ctx "ConnackActor::connect" .notConnected
            ("Failed to connect to server, server returns: " ++ env.returnCodeText returnCode) ++
          doSendStop ctx

/-- `Handler<Disconnect>`: waits for pending packets unless forced. -/
def DisconnectActor.handle (ctx : Ctx) (msg : Disconnect) (s : State) : State × Out :=
  if msg.force || s.packetSendFinished then
    (s, sendPacket ctx "DisconnectActor::disconnect" .disconnect (.disconnect msg) [] ++
      doSendStop ctx ++ [.halt ctx.self])
  else ({ s with pendingDisconnect := true }, [])

/-- `Handler<PacketSendStatus>` -/
def DisconnectActor.handlePacketSendStatus (ctx : Ctx) (msg : PacketSendStatus) (s : State) :
    State × Out :=
  let s := { s with packetSendFinished := msg.finished }
  if s.pendingDisconnect && s.packetSendFinished then
    ({ s with pendingDisconnect := false },
      [.post ctx.self ⟨ctx.origin, .request (.disconnect ⟨true⟩)⟩])
  else (s, [])

def StopActor.addStopRecipient (recipient : Actor) (s : State) : State :=
  { s with stopRecipients := s.stopRecipients ++ [recipient] }

/-- The first StopMessage is passed on to every recipient; then the actor stops itself. -/
def StopActor.handle (ctx : Ctx) (s : State) : State × Out :=
  if s.stopping then (s, [])
  else
    ({ s with stopping := true },
      s.stopRecipients.map (fun recipient => .post recipient ⟨ctx.origin, .stop⟩) ++
        [.halt ctx.self])

/-- `SendActor::handle(VariablePacketMessage)` after the actor started: what was encoded is
    written also when `encode` failed. -/
def SendActor.handle (env : Env) (ctx : Ctx) (packet : VariablePacket) : Out :=
  (match (env.encode packet).2 with
    | some e =>
        sendError ctx "SendActor::encode" .interrupted s!"Failed to send message, error: {e}"
    | none => []) ++
  [.emit (.wrote (env.encode packet).1)]

/-- `WriteHandler::error` of SendActor, which stops the actor. -/
def SendActor.error (ctx : Ctx) (text : String) : Out :=
  sendError ctx "SendActor::error" .interrupted text ++ doSendStop ctx ++ [.halt ctx.self]

/-- The actor a packet is dispatched to, with the name of the recipient field. -/
def DispatchActor.target : VariablePacket → Option (Actor × String)
  | .connack _ => some (.connack, "connack_recipient")
  | .pingresp => some (.pingresp, "pingresp_recipient")
  | .publish _ => some (.recvPublish, "publish_recipient")
  | .puback _ => some (.puback, "puback_recipient")
  | .pubrec _ => some (.pubrec, "pubrec_recipient")
  | .pubrel _ => some (.pubrel, "pubrel_recipient")
  | .pubcomp _ => some (.pubcomp, "pubcomp_recipient")
  | .suback _ => some (.suback, "suback_recipient")
  | .unsuback _ => some (.unsuback, "unsuback_recipient")
  | _ => none

def DispatchActor.handle (ctx : Ctx) (packet : VariablePacket) : Out :=
  match DispatchActor.target packet with
  | none => []
  | some (dst, name) =>
      trySend ctx dst (.request (.packet ⟨packet, 0⟩))
        (handleSendError ctx s!"DispatchActor:{name}") []

/-- `StreamHandler::handle` of RecvActor. -/
def RecvActor.handle (env : Env) (ctx : Ctx) (packet : VariablePacket) : Out :=
  trySend ctx .dispatch (.request (.packet ⟨packet, 0⟩))
    (fun e => sendError ctx "RecvActor::stream_handler" .interrupted
      ("Error when sending packet: " ++ env.sendErrorText e)) []

/-- What `stopped` adds to a stop of RecvActor. -/
def RecvActor.stopped (ctx : Ctx) : Out := [.halt ctx.self] ++ doSendStop ctx

/-- A packet that does not parse ends the stream, and with it the actor. -/
def RecvActor.parseFailed (ctx : Ctx) (text : String) : Out :=
  sendError ctx "RecvActor::parse_packet" .interrupted s!"Error when parsing packet: {text}" ++
    trySend ctx .stop .stop (fun _ => []) [] ++ RecvActor.stopped ctx

end ActixMqtt
