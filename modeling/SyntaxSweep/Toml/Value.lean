import SyntaxSweep.Decimal.Binary64

namespace SyntaxSweep.Toml

inductive Value where
  | string (text : String)
  | integer (n : Int)
  | float (x : Binary64)
  | boolean (b : Bool)
  | dateTime (spelling : String)
  | array (items : List Value)
  | table (entries : List (String × Value))
  deriving Repr

abbrev Document := List (String × Value)

end SyntaxSweep.Toml
