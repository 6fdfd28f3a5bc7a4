import ReceiptPress.Value.Basic

namespace ReceiptPress

structure Profile where
  maxCharsNormal : Value := .int 42
  maxCharsDouble : Value := .int 21
  dotWidth : Value := .int 384
  logoHeight : Value := .int 128
  nameWidth : Value := .int 24
  priceWidth : Value := .int 8
  previewBytes : Value := .int 32

namespace Profile

def setting (name : String) (fields : List (CodePoints × Value)) : Except Fault Value :=
  match Value.field? name.toList fields with
  | some v => .ok v
  | none => .error (.missingSetting name.toList)

def ofFields (fields : List (CodePoints × Value)) : Except Fault Profile := do
  let maxCharsNormal ← setting "max_chars_normal" fields
  let maxCharsDouble ← setting "max_chars_double" fields
  let dotWidth ← setting "dot_width" fields
  let logoHeight ← setting "logo_height" fields
  let nameWidth ← setting "name_width" fields
  let priceWidth ← setting "price_width" fields
  let previewBytes ← setting "preview_bytes" fields
  return { maxCharsNormal, maxCharsDouble, dotWidth, logoHeight, nameWidth, priceWidth,
           previewBytes }

def ofValue : Value → Except Fault Profile
  | .object fields => ofFields fields
  | .list _ => .error .settingsInList
  | .str _ => .error .settingsInText
  | v => .error (.notSliceable v.kind)

def fields (p : Profile) : List (Text × Value) :=
  [("max_chars_normal".toList, p.maxCharsNormal), ("max_chars_double".toList, p.maxCharsDouble),
    ("dot_width".toList, p.dotWidth), ("logo_height".toList, p.logoHeight),
    ("name_width".toList, p.nameWidth), ("price_width".toList, p.priceWidth),
    ("preview_bytes".toList, p.previewBytes)]

end Profile

end ReceiptPress
