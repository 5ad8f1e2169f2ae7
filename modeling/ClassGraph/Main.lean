import ClassGraph.Command.Run
import ClassGraph.File.Bundle

namespace ClassGraph.Command

/-- Reads standard input to its end. -/
partial def readInput (input : IO.FS.Stream) (lines : List String) : IO String := do
  let line ← input.getLine
  if line.isEmpty then return String.join lines.reverse else readInput input (line :: lines)

end ClassGraph.Command

open ClassGraph

def main (arguments : List String) : IO UInt32 := do
  let text ← Command.readInput (← IO.getStdin) []
  let bundle := (Json.read? 1000 text).getD .null
  let grammar := Bundle.grammar (Bundle.itemsOf bundle "files")
  let result := Command.run Pattern.engine grammar (Bundle.fileTree bundle) arguments
  IO.print result.output
  if let some failure := result.error then IO.eprintln failure.message
  if let .ok options := Command.Options.ofArguments Pattern.engine arguments then
    if let some path := options.output then
      if let some bytes := result.tree.read? path then IO.FS.writeBinFile path.text bytes
  return UInt32.ofNat result.exit
