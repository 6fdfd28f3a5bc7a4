namespace ReceiptPress

inductive Kind where
  | null
  | bool
  | int
  | float
  | str
  | list
  | object
  | item
  deriving DecidableEq

def Kind.name : Kind → String
  | .null => "NoneType"
  | .bool => "bool"
  | .int => "int"
  | .float => "float"
  | .str => "str"
  | .list => "list"
  | .object => "dict"
  | .item => "ReceiptItem"

end ReceiptPress
