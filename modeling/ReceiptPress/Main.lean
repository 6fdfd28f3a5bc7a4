import Mathlib.Tactic.DeprecateTo
import ReceiptPress.CommandLine.Run
import ReceiptPress.Settings

namespace ReceiptPress.Main

open CommandLine

def settingNames : List String :=
  ["RECEIPT_MAX_CHARS_NORMAL", "RECEIPT_MAX_CHARS_DOUBLE", "RECEIPT_DOT_WIDTH",
    "RECEIPT_LOGO_HEIGHT", "RECEIPT_NAME_WIDTH", "RECEIPT_PRICE_WIDTH", "RECEIPT_PREVIEW_BYTES",
    "DEBUG_LEVEL", "LOG_FILE"]

def readEnvironment : IO (Text → Option Text) := do
  let found ← settingNames.filterMapM fun name => do
    return (← IO.getEnv name).map fun v => (name.toList, v.toList)
  return fun name => (found.find? (·.1 = name)).map (·.2)

def readFile (name : Text) : IO (Except FileFault Bytes) := do
  if name.contains '\x00' then return .error .nullCharacter
  try
    return .ok (← IO.FS.readBinFile (String.ofList name)).toList
  catch
    | .noFileOrDirectory .. => return .error .missing
    | .inappropriateType .. => return .error .directory
    | _ => return .error .refused

def readFiles (arguments : List Text) : IO Files := do
  let names :=
    match parse arguments with
    | .ok (.request r) => r.files
    | _ => []
  let found ← names.mapM fun name => do return (name, ← readFile name)
  return fun name => ((found.find? (·.1 = name)).map (·.2)).getD (.error .missing)

def supply : Nat := 6000

def randomIds : IO IdSource := do
  let picks ← (List.replicate supply ()).mapM fun _ =>
    IO.rand 0 (TransactionId.alphabet.length - 1)
  let picks := picks.toArray
  return .ofPicks fun n => (picks.getD (n % supply) 0 : Nat)

def openLog (setup : LogSetup) (file : Value) : IO IO.FS.Stream := do
  match setup.target, file with
  | .file, .str name =>
    return .ofHandle (← IO.FS.Handle.mk (String.ofList name.toText) .append)
  | _, _ => IO.getStderr

-- The clock is all that the import from the library is for.
def writeRecord (setup : LogSetup) (log : IO.FS.Stream) (r : LogRecord) : IO Unit := do
  if setup.keeps r then
    let now ← Std.Time.PlainDateTime.now
    log.putStr (LogSetup.line (now.format "uuuu-MM-dd HH:mm:ss,SSS") r)

def usage : String :=
  "usage: receipt-press [-h] [--template TEMPLATE] [--items ITEMS] [--identifier IDENTIFIER]\n" ++
    "                     [--transaction-id TRANSACTION_ID]\n" ++
    "                     [--format \x7bsummary,hex,base64,decode,raw\x7d]\n" ++
    "                     [job]\n"

def write (setup : LogSetup) (log : IO.FS.Stream) (outcome : Outcome) : IO Unit := do
  let stderr ← IO.getStderr
  match outcome with
  | .usage e => stderr.putStr (usage ++ "receipt-press: error: " ++ e.message ++ "\n")
  | .help => (← IO.getStdout).putStr usage
  | .unhandled f => stderr.putStr (f.message ++ "\n")
  | outcome =>
    for message in outcome.messages do
      match message with
      | .record r => writeRecord setup log r
      | .line text => stderr.putStr text
    (← IO.getStdout).write ⟨outcome.output.toArray⟩

def program (arguments : List Text) : IO UInt32 := do
  match Settings.ofEnvironment (← readEnvironment) with
  | .error f =>
    (← IO.getStderr).putStr (f.message ++ "\n")
    return 1
  | .ok settings =>
    match LogSetup.ofFields settings.record with
    | .error f =>
      (← IO.getStderr).putStr (f.message ++ "\n")
      return 1
    | .ok setup =>
      let log ← openLog setup settings.logFile
      let outcome := run (← readFiles arguments) settings.profile (← randomIds) arguments
      write setup log outcome
      return UInt32.ofNat outcome.status

end ReceiptPress.Main

def main (arguments : List String) : IO UInt32 :=
  ReceiptPress.Main.program (arguments.map String.toList)
