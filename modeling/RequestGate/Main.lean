import RequestGate.CommandLine.Run

/-!
# The program

Runs the command line on real files.  Standard output has what a command prints, and failures go to
standard error.
-/

namespace RequestGate
namespace CommandLine

/-- The contents of a file, if it can be read. -/
def readRealFile (path : String) : IO (Option (List UInt8)) := do
  try
    return some (← IO.FS.readBinFile path).toList
  catch _ => return none

/-- A failure in words. -/
def Failure.text : Failure → String
  | usage => "the arguments are not understood, try --help"
  | config e => e.message?.getD "the configuration cannot be read"
  | start e => e.message?.getD "the description cannot be read"

end CommandLine
end RequestGate

/-- Runs the program and reports how it ended. -/
def main (arguments : List String) : IO UInt32 := do
  let outcome ← RequestGate.CommandLine.run RequestGate.CommandLine.readRealFile arguments
  match outcome with
  | .printed text => IO.print text
  | .failed failure => IO.eprintln ("Error: " ++ failure.text)
  | .serving config _ => IO.eprintln ("ready for requests at " ++ config.listener.bindAddress)
  return UInt32.ofNat outcome.status
