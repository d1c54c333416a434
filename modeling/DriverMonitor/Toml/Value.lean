/-! # Settings values

The values that a TOML document is made of. A table has each key once; an array of tables is an array
like any other.
-/

namespace DriverMonitor

inductive TomlValue where
  | string (text : String)
  /-- A number in the range of 64-bit integers. -/
  | integer (i : Int)
  | float (x : Float)
  | boolean (b : Bool)
  /-- A date, a time or both, as written. -/
  | datetime (text : String)
  | array (items : List TomlValue)
  | table (members : List (String × TomlValue))

end DriverMonitor
