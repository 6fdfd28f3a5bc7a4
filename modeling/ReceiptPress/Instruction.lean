import ReceiptPress.Bytes.Basic

namespace ReceiptPress

inductive Alignment where
  | left
  | center
  | right
  | justify
  deriving DecidableEq

def Alignment.name : Alignment → String
  | .left => "LEFT"
  | .center => "CENTER"
  | .right => "RIGHT"
  | .justify => "JUSTIFY"

inductive Instruction where
  | init
  | cut
  | align (a : Alignment)
  | boldOn
  | boldOff
  | doubleHeight
  | doubleWidth
  | normalSize
  deriving DecidableEq

namespace Instruction

def bytes : Instruction → Bytes
  | init => [0x1B, 0x40]
  | cut => [0x1D, 0x56, 0x42, 0x00]
  | align .left => [0x1B, 0x61, 0x00]
  | align .center => [0x1B, 0x61, 0x01]
  | align .right => [0x1B, 0x61, 0x02]
  | align .justify => [0x1B, 0x61, 0x03]
  | boldOn => [0x1B, 0x45, 0x01]
  | boldOff => [0x1B, 0x45, 0x00]
  | doubleHeight => [0x1D, 0x21, 0x01]
  | doubleWidth => [0x1D, 0x21, 0x10]
  | normalSize => [0x1D, 0x21, 0x00]

def name : Instruction → String
  | init => "INIT"
  | cut => "CUT"
  | align a => "ALIGN_" ++ a.name
  | boldOn => "BOLD_ON"
  | boldOff => "BOLD_OFF"
  | doubleHeight => "DOUBLE_HEIGHT"
  | doubleWidth => "DOUBLE_WIDTH"
  | normalSize => "NORMAL_SIZE"

def all : List Instruction :=
  [init, cut, align .left, align .center, align .right, align .justify, boldOn, boldOff,
    doubleHeight, doubleWidth, normalSize]

end Instruction

def lineFeed : Bytes := [0x0A]

def rasterOpening : Bytes := [0x1D, 0x76, 0x30]

def rasterNormalMode : UInt8 := 0x00

def barcodeOpening : Bytes := [0x1D, 0x6B]

def code128Symbology : UInt8 := 73

end ReceiptPress
