import MemberSpec.Decimal.Binary64

/-!
# TOML values

The values of a TOML document. A table keeps its entries in the order in which they were made.
-/

namespace MemberSpec.Toml

/-- A value. A date or time is kept as it is written. -/
inductive Value where
  | string (s : String)
  | integer (n : Int)
  | float (x : Binary64)
  | boolean (b : Bool)
  | datetime (written : String)
  | array (items : List Value)
  | table (entries : List (String × Value))
deriving Repr

/-- The entries of a table. -/
abbrev Table := List (String × Value)

end MemberSpec.Toml
