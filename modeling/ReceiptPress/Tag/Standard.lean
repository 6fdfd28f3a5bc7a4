import ReceiptPress.Tag.Entry

namespace ReceiptPress.Tag

def logo : Text := named "LOGO"

def barcode : Text := named "BARCODE"

def items : Text := named "ITEMS"

namespace Entry

def toggle (name title : String) (instruction : Instruction) (pair attributeName : String)
    (enabled : Bool) : Entry where
  tag := named name
  title := title.toList
  category := .toggle
  bytes := instruction.bytes
  pair := some (named pair)
  attributeName := some attributeName.toList
  enabled := enabled

def align (name title : String) (alignment : Alignment) : Entry where
  tag := named name
  title := title.toList
  category := .align
  bytes := (Instruction.align alignment).bytes
  alignment := some alignment

def block (tag : Text) (title : String) : Entry where
  tag := tag
  title := title.toList
  category := .block

def data (name title field fallback : String) : Entry where
  tag := named name
  title := title.toList
  category := .data
  field := some field.toList
  fallback := fallback.toList

def standard : List Entry :=
  [toggle "B_ON" "Bold On" .boldOn "B_OFF" "bold" true,
    toggle "B_OFF" "Bold Off" .boldOff "B_ON" "bold" false,
    toggle "DH_ON" "Double Height On" .doubleHeight "DH_OFF" "double_height" true,
    toggle "DH_OFF" "Double Height Off" .normalSize "DH_ON" "double_height" false,
    toggle "DW_ON" "Double Width On" .doubleWidth "DW_OFF" "double_width" true,
    toggle "DW_OFF" "Double Width Off" .normalSize "DW_ON" "double_width" false,
    align "CENTER" "Align Center" .center,
    align "LEFT" "Align Left" .left,
    align "RIGHT" "Align Right" .right,
    align "JUSTIFY" "Align Justify" .justify,
    block logo "Raster Logo",
    block barcode "Transaction Barcode",
    block items "Item List",
    data "STORE_ID" "Identifier" "identifier" "UNDEFINED",
    data "TOTAL" "Total" "total" "0.00"]

end Entry

end ReceiptPress.Tag
