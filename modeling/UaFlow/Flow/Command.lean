import UaFlow.Flow.Engine
/-!
# Running a flow from the command line

The command runs a persisted flow against one message: it deploys the flow text, reads the
message text (a blank text is the empty message) and injects it into a node; each message that
leaves the flow is one line of compact JSON, its fields in the order they are declared. Listing
prints the palette: each section, then each of its node types, padded to 16 characters, with its
description.
-/

namespace UaFlow.Flow

open UaFlow.Json

/-- A text padded with spaces on the right to a width. -/
def padRight (width : Nat) (s : String) : String :=
  s ++ String.ofList (List.replicate (width - s.length) ' ')

/-- The lines of the palette listing. -/
def Registry.listing (r : Registry) : List String :=
  r.palette.flatMap fun (heading, types) =>
    heading :: types.map fun t =>
      "  " ++ padRight 16 t ++ " " ++ ((r.metadata? t).map NodeMetadata.description).getD ""

/-- Runs a flow text against a message text at a node: the lines it prints, or the error. -/
def runFlow (r : Registry) (flowText nodeId input fresh : String) : Except String (List String) := do
  let engine ← (Engine.ofText r flowText).mapError ConfigError.message
  let msg ← if (Text.trim input).isEmpty then pure (Message.empty fresh)
    else (Message.ofText fresh input).mapError DecodeError.message
  let (_, deliveries) ← (engine.inject nodeId msg).mapError NodeError.message
  return deliveries.map fun d => d.message.toText

end UaFlow.Flow
