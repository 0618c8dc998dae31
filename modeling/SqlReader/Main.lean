import SqlReader.CommandLine

set_option autoImplicit false

namespace SqlReader

def programName : IO String := do
  return ((← IO.appPath).fileName).getD "sqlreader"

-- Some failures come with their code negated, in 32 bits.
def readFailure : IO.Error → ReadFailure
  | .alreadyExists _ code details | .interrupted _ code details
  | .noFileOrDirectory _ code details | .invalidArgument _ code details
  | .permissionDenied _ code details | .resourceExhausted _ code details
  | .inappropriateType _ code details | .noSuchThing _ code details
  | .otherError code details | .resourceBusy code details | .resourceVanished code details
  | .unsupportedOperation code details | .hardwareFault code details
  | .unsatisfiedConstraints code details | .illegalOperation code details
  | .protocolError code details | .timeExpired code details =>
    .ofCode (if code < 0x80000000 then code else 0 - code).toNat details
  | .unexpectedEof => .system 0 "unexpected end of file"
  | .userError details => .system 0 details

def readInput (input : Input) : IO (Except ReadFailure ByteArray) := do
  try
    match input with
    | .standard => return .ok (← (← IO.getStdin).readBinToEnd)
    | .file path => return .ok (← IO.FS.readBinFile path)
  catch e => return .error (readFailure e)

def emit (report : CommandLine.Report) : IO UInt32 := do
  IO.print report.output
  IO.eprint report.errors
  return report.status

end SqlReader

def main (arguments : List String) : IO UInt32 := do
  match SqlReader.CommandLine.input? arguments with
  | none => SqlReader.emit (SqlReader.CommandLine.usage (← SqlReader.programName))
  | some input =>
    SqlReader.emit (SqlReader.CommandLine.respond input (← SqlReader.readInput input))
