import ActixMqtt.Actors.Runs
import ActixMqtt.Actors.World
import ActixMqtt.Actors.Potential
import ActixMqtt.Actors.Effort
import ActixMqtt.Actors.Everywhere
import ActixMqtt.Actors.Settling
import ActixMqtt.Actors.Inbox
import ActixMqtt.Actors.Relay
import ActixMqtt.Actors.Projection
import ActixMqtt.Arithmetic.Wrapping
import ActixMqtt.Protocols.Retrying
import ActixMqtt.Packets
import ActixMqtt.Messages
import ActixMqtt.Sending
import ActixMqtt.PacketActors
import ActixMqtt.Publish
import ActixMqtt.Connection
import ActixMqtt.Client
import ActixMqtt.Steps
import ActixMqtt.Effects
import ActixMqtt.Genuine
import ActixMqtt.Chains
import ActixMqtt.Retransmission
import ActixMqtt.Acknowledgements
import ActixMqtt.Release
import ActixMqtt.Inbound
import ActixMqtt.Cleanup
import ActixMqtt.Disconnecting
import ActixMqtt.Farewell
import ActixMqtt.Core
import ActixMqtt.Interference
import ActixMqtt.Phases
import ActixMqtt.Connecting
import ActixMqtt.Handles
import ActixMqtt.Connected
import ActixMqtt.Watching
import ActixMqtt.Timely
import ActixMqtt.Pinging
import ActixMqtt.Reporting
import ActixMqtt.Streams
import ActixMqtt.Deadline
import ActixMqtt.Delivery
import ActixMqtt.Counters
import ActixMqtt.Broadcast
import ActixMqtt.Identifiers
import ActixMqtt.Flows
import ActixMqtt.Cycle
import ActixMqtt.Attempting
import ActixMqtt.Activity
import ActixMqtt.Pipeline
import ActixMqtt.Ending
import ActixMqtt.Surviving
import ActixMqtt.Leaving
import ActixMqtt.Provenance
import ActixMqtt.Traffic
import ActixMqtt.Numbering
import ActixMqtt.Aftermath
import ActixMqtt.Ordering
