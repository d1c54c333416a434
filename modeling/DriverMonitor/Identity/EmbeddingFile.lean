import DriverMonitor.Identity.Profile
import DriverMonitor.Json.Reader
import DriverMonitor.Text.Utf8

/-! # Embedding files

Embeddings are kept as an array of arrays of numbers.
-/

namespace DriverMonitor.Embedding

def parseAll? (text : String) : Option (List Embedding) := do
  (← JsonValue.parse? text).list? (·.list? JsonValue.single?)

def readAll (bytes : List UInt8) : Except Failure (List Embedding) :=
  ((Text.ofUtf8? bytes).bind parseAll?).elim (.error .json) .ok

end DriverMonitor.Embedding
