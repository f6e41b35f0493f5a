/-!
# TOML values

The values a TOML text can give to a key. Fractions and dates are kept as they
are written, since nothing is computed with them.
-/

namespace IrExcerpt.Toml

/-- A value of a TOML text. -/
inductive Value where
  | string (text : String)
  | integer (value : Int64)
  | float (literal : String)
  | boolean (value : Bool)
  | dateTime (literal : String)
  | array (items : List Value)
  /-- Keys with their values; no key comes twice. -/
  | table (fields : List (String × Value))

end IrExcerpt.Toml
