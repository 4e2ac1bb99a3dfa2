import UaFlow.Flow.Command
/-!
# The command line

`opcua-flow <flow.json> <node-id>` runs the flow in the file against one message read from
standard input and prints every message that leaves it; `opcua-flow --list` prints the palette.
-/

open UaFlow.Flow

/-- A hex digit in lower case. -/
def lowerHexDigit (n : Nat) : Char :=
  if n < 10 then Char.ofNat (48 + n) else Char.ofNat (87 + n)

/-- A fresh message id: a random version-4 uuid as 32 lower-case hex digits. -/
def freshMessageId : IO String := do
  let mut digits : List Char := []
  for i in [0:32] do
    let d ← IO.rand 0 15
    let d := if i = 12 then 4 else if i = 16 then 8 + d % 4 else d
    digits := digits ++ [lowerHexDigit d]
  return String.ofList digits

/-- Reads standard input to its end. -/
partial def readInput (stdin : IO.FS.Stream) (acc : String) : IO String := do
  let line ← stdin.getLine
  if line.isEmpty then return acc else readInput stdin (acc ++ line)

def main (args : List String) : IO UInt32 := do
  match args with
  | "--list" :: _ =>
    for line in Registry.standard.listing do
      IO.println line
    return 0
  | [flowPath, nodeId] =>
    try
      let flowText ← IO.FS.readFile flowPath
      let input ← readInput (← IO.getStdin) ""
      IO.setRandSeed (← IO.monoNanosNow)
      let fresh ← freshMessageId
      match runFlow Registry.standard flowText nodeId input fresh with
      | .ok lines =>
        for line in lines do
          IO.println line
        return 0
      | .error e =>
        IO.eprintln e
        return 1
    catch e =>
      IO.eprintln (toString e)
      return 1
  | _ =>
    IO.eprintln "usage: opcua-flow <flow.json> <node-id> | opcua-flow --list"
    return 2
