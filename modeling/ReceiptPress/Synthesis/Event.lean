import ReceiptPress.Chunk
import ReceiptPress.Fault
import ReceiptPress.Journal
import ReceiptPress.Tracker

namespace ReceiptPress.Synthesis

inductive Problem where
  | unknownTag (tag : Text)
  | noIdentity
  | noExpansion (tag : Text) (line : Nat)
  | logoFault (cause : Fault) (line : Nat)
  | barcodeFault (cause : Fault) (line : Nat)
  | aborted (cause : Fault)
  deriving DecidableEq

def Problem.finding : Problem → Finding
  | unknownTag tag =>
    { message :=
        "MALFORMED_TAG: \"" ++ String.ofList tag ++ "\" is not a recognized ESC/POS instruction." }
  | noIdentity =>
    { message :=
        "CRITICAL: identifier is empty. A valid identity is required for every document." }
  | noExpansion tag line =>
    { message := "No expansion available for block " ++ String.ofList tag ++ "."
      line := some line }
  | logoFault cause line =>
    { message := "Binary rasterization fault for LOGO (" ++ cause.message ++ ")."
      line := some line }
  | barcodeFault cause line =>
    { message := "Barcode generation fault (Instruction GS k 73): " ++ cause.message
      line := some line }
  | aborted cause => { message := "PROTOCOL_ABORT: " ++ cause.message }

inductive Notice where
  | overflow (count : Nat) (limit : Text) (line : Nat)
  | noItems (line : Nat)
  | leak (switch : Text)
  deriving DecidableEq

def Notice.finding : Notice → Finding
  | overflow count limit line =>
    { message :=
        "Buffer overflow. Line contains " ++ toString count ++ " chars (Max " ++
          String.ofList limit ++ " for current width). Text may wrap."
      line := some line }
  | noItems line =>
    { message := "Item set is empty. Skipping BLOCK_ITEMS.", line := some line }
  | leak switch => { message := leakMessage switch }

inductive Event where
  | emit (c : Chunk)
  | problem (p : Problem)
  | notice (n : Notice)
  | drawn (dimensions : Text) (size : Nat)
  deriving DecidableEq

namespace Event

def chunk? : Event → Option Chunk
  | emit c => some c
  | _ => none

def problem? : Event → Option Problem
  | problem p => some p
  | _ => none

def notice? : Event → Option Notice
  | notice n => some n
  | _ => none

def alarm : Problem → List LogRecord
  | .logoFault cause line =>
    [⟨.error, .synthesis,
      "Logo rasterization failed on line " ++ toString line ++ ": " ++ cause.message⟩]
  | .barcodeFault cause line =>
    [⟨.error, .synthesis,
      "Barcode encoding failed on line " ++ toString line ++ ": " ++ cause.message⟩]
  | .aborted cause => [⟨.error, .synthesis, "Synthesis aborted: " ++ cause.message⟩]
  | _ => []

def records : Event → List LogRecord
  | emit _ => []
  | problem p => alarm p ++ [.ofError p.finding]
  | notice n => [.ofWarning n.finding]
  | drawn dimensions size =>
    [⟨.debug, .drawing,
      "Rasterized logo " ++ String.ofList dimensions ++ " (" ++ toString size ++ " bytes)"⟩]

end Event

end ReceiptPress.Synthesis
