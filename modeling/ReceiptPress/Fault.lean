import ReceiptPress.Text.Ascii
import ReceiptPress.Text.Quoted
import ReceiptPress.Value.Kind

/-!
# Faults

A fault is the cause for which an operation gave no result. Its wording is one function of the
cause, and its family says which handlers catch it.
-/

namespace ReceiptPress

inductive FaultFamily where
  | value
  | encoder
  | kind
  | member
  | missing
  | range
  | field
  | source
  | depth
  | room
  deriving DecidableEq

inductive Fault where
  | malformedTag (tag : Text)
  | tagWithoutBytes (tag : Text)
  | listTooDeep
  | recordTooDeep
  | tooDeepToWrite
  | notANumeral (text : CodePoints)
  | notAWholeNumeral (text : Text)
  | tooLongToRead (digits : Nat)
  | tooLongToWrite
  | tooLargeForBinary64
  | tooLargeForWidth
  | noRoom
  | notARecord (kind : Kind)
  | notIterable (kind : Kind)
  | notSliceable (kind : Kind)
  | sliceOfRecord
  | sliceBound
  | notPaddable (kind : Kind)
  | notAWidth (kind : Kind)
  | notAnAmount (kind : Kind)
  | textAsAmount
  | notAddable (left right : Kind)
  | notComparable (relation : String) (left right : Kind)
  | notATemplate (kind : Kind)
  | notABitmapSize (kind : Kind)
  | notEncodable (kind : Kind)
  | notALevel (kind : Kind)
  | headerRange
  | headerWord
  | headerKind
  | rasterNotPositive (dimensions : Text)
  | rasterNotAligned (width : Text)
  | rasterTooLarge (dimensions : Text)
  | barcodeForeign (run : ForeignRun)
  | barcodeEmpty
  | barcodeTooLong (size : Nat)
  | emptyRows
  | tooLargeForRow
  | jobNotARecord
  | jobWithoutTemplate
  | jobItems
  | missingSetting (name : Text)
  | settingsInList
  | settingsInText
  | idSource (message : Text)
  deriving DecidableEq

namespace Fault

def family : Fault → FaultFamily
  | malformedTag _ | tagWithoutBytes _ | notANumeral _ | notAWholeNumeral _ | tooLongToRead _
  | tooLongToWrite | textAsAmount | emptyRows | tooLargeForRow | jobNotARecord | jobWithoutTemplate
  | jobItems => .value
  | rasterNotPositive _ | rasterNotAligned _ | rasterTooLarge _ | barcodeForeign _ | barcodeEmpty
  | barcodeTooLong _ => .encoder
  | notIterable _ | notSliceable _ | sliceOfRecord | sliceBound | notAWidth _ | notAnAmount _
  | notAddable _ _ | notComparable _ _ _ | notATemplate _ | notABitmapSize _ | settingsInList
  | settingsInText => .kind
  | notARecord _ | notPaddable _ | notEncodable _ | notALevel _ => .member
  | missingSetting _ => .missing
  | tooLargeForBinary64 | tooLargeForWidth => .range
  | headerRange | headerWord | headerKind => .field
  | idSource _ => .source
  | listTooDeep | recordTooDeep | tooDeepToWrite => .depth
  | noRoom => .room

def depthMessage (doing : String) : String := "maximum recursion depth exceeded while " ++ doing

def shownQuotation : Nat := 200

def foreignMessage (run : ForeignRun) : String :=
  if run.size = 1 then
    "'ascii' codec can't encode character '" ++
      String.ofList (Text.spellCodePoint run.opening.toNat) ++ "' in position " ++
        toString run.start ++ ": ordinal not in range(128)"
  else
    "'ascii' codec can't encode characters in position " ++ toString run.start ++ "-" ++
      toString (run.start + run.size - 1) ++ ": ordinal not in range(128)"

def message : Fault → String
  | malformedTag tag =>
    "Tag " ++ String.ofList (Text.quoted tag) ++ " does not match \x7b\x7b[A-Z0-9_]+\x7d\x7d"
  | tagWithoutBytes tag => "Tag " ++ String.ofList tag ++ " needs an instruction byte sequence"
  | listTooDeep => depthMessage "decoding a JSON array from a unicode string"
  | recordTooDeep => depthMessage "decoding a JSON object from a unicode string"
  | tooDeepToWrite => depthMessage "getting the repr of an object"
  | notANumeral text => "could not convert string to float: " ++ String.ofList text.quoted
  | notAWholeNumeral text =>
    "invalid literal for int() with base 10: " ++
      String.ofList ((Text.quoted text).take shownQuotation)
  | tooLongToRead digits =>
    "Exceeds the limit (4300 digits) for integer string conversion: value has " ++
      toString digits ++ " digits; use sys.set_int_max_str_digits() to increase the limit"
  | tooLongToWrite =>
    "Exceeds the limit (4300 digits) for integer string conversion; " ++
      "use sys.set_int_max_str_digits() to increase the limit"
  | tooLargeForBinary64 => "int too large to convert to float"
  | tooLargeForWidth => "Python int too large to convert to C ssize_t"
  | noRoom => ""
  | notARecord kind => "'" ++ kind.name ++ "' object has no attribute 'get'"
  | notIterable kind => "'" ++ kind.name ++ "' object is not iterable"
  | notSliceable kind => "'" ++ kind.name ++ "' object is not subscriptable"
  | sliceOfRecord => "unhashable type: 'slice'"
  | sliceBound => "slice indices must be integers or None or have an __index__ method"
  | notPaddable kind => "'" ++ kind.name ++ "' object has no attribute 'ljust'"
  | notAWidth kind => "'" ++ kind.name ++ "' object cannot be interpreted as an integer"
  | notAnAmount kind => "unsupported format string passed to " ++ kind.name ++ ".__format__"
  | textAsAmount => "Unknown format code 'f' for object of type 'str'"
  | notAddable left right =>
    "unsupported operand type(s) for +: '" ++ left.name ++ "' and '" ++ right.name ++ "'"
  | notComparable relation left right =>
    "'" ++ relation ++ "' not supported between instances of '" ++ left.name ++ "' and '" ++
      right.name ++ "'"
  | notATemplate kind => "expected string or bytes-like object, got '" ++ kind.name ++ "'"
  | notABitmapSize kind => "cannot convert '" ++ kind.name ++ "' object to bytearray"
  | notEncodable kind => "'" ++ kind.name ++ "' object has no attribute 'encode'"
  | notALevel kind => "'" ++ kind.name ++ "' object has no attribute 'upper'"
  | headerRange => "ushort format requires 0 <= number <= 65535"
  | headerWord => "argument out of range"
  | headerKind => "required argument is not an integer"
  | rasterNotPositive dimensions =>
    "Raster dimensions must be positive, got " ++ String.ofList dimensions
  | rasterNotAligned width =>
    "Raster width " ++ String.ofList width ++ " is not a multiple of 8 dots"
  | rasterTooLarge dimensions =>
    "Raster dimensions " ++ String.ofList dimensions ++ " exceed 16-bit header fields"
  | barcodeForeign run => "Barcode payload must be ASCII: " ++ foreignMessage run
  | barcodeEmpty => "Barcode payload is empty"
  | barcodeTooLong size => "Barcode payload is " ++ toString size ++ " bytes (max 255)"
  | emptyRows => "range() arg 3 must not be zero"
  | tooLargeForRow => "Too many decimal digits in format string"
  | jobNotARecord => "Job must be a JSON object"
  | jobWithoutTemplate => "Job is missing a 'template' string"
  | jobItems => "Job 'items' must be a list"
  | missingSetting name => String.ofList (Text.quoted name)
  | settingsInList => "list indices must be integers or slices, not str"
  | settingsInText => "string indices must be integers, not 'str'"
  | idSource message => String.ofList message

end Fault

end ReceiptPress
