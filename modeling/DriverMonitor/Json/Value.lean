import DriverMonitor.Json.Numeral

/-! # Data values

The value that a data file holds: a tree of arrays and objects over numerals, strings and the three
literals. Objects keep all their members in order, repeated keys included, because what a repeated
key means is for the reader of the object to decide.
-/

namespace DriverMonitor

structure JsonString where
  text : String
  /-- Whether the string is text at all: escapes can name half of a surrogate pair, which is written
  as a replacement character here. -/
  whole : Bool := true
  deriving DecidableEq, Repr

/-- A value in a data file. -/
inductive JsonValue where
  | null
  | bool (b : Bool)
  | number (n : Numeral)
  | string (s : JsonString)
  | array (items : List JsonValue)
  | object (members : List (JsonString × JsonValue))
  deriving Repr

namespace JsonValue

mutual

/-- Whether every number in the value has a value, every string is text, and arrays and objects are
nested at most `depth` deep. -/
def isPlain (depth : Nat) : JsonValue → Bool
  | null | bool _ => true
  | number n => n.toFloat?.isSome
  | string s => s.whole
  | array items => depth ≠ 0 && itemsPlain (depth - 1) items
  | object members => depth ≠ 0 && membersPlain (depth - 1) members

@[inherit_doc isPlain]
def itemsPlain (depth : Nat) : List JsonValue → Bool
  | [] => true
  | v :: rest => v.isPlain depth && itemsPlain depth rest

@[inherit_doc isPlain]
def membersPlain (depth : Nat) : List (JsonString × JsonValue) → Bool
  | [] => true
  | (k, v) :: rest => k.whole && v.isPlain depth && membersPlain depth rest

end

/-! ## Looking at a value -/

def float? : JsonValue → Option Float
  | number n => n.toFloat?
  | _ => none

def single? : JsonValue → Option Number.Single
  | number n => n.toSingle?
  | _ => none

/-- The items of an array, each looked at by `f`. -/
def list? {α : Type} (f : JsonValue → Option α) : JsonValue → Option (List α)
  | array items => items.mapM f
  | _ => none

/-- Nothing for `null`, otherwise what `f` sees. -/
def nullable? {α : Type} (f : JsonValue → Option α) : JsonValue → Option (Option α)
  | null => some none
  | v => (f v).map some

/-- The member of a key, if there is one; a key that stands twice is refused. -/
def member? (key : String) (members : List (JsonString × JsonValue)) : Option (Option JsonValue) :=
  match members.filter (·.1.text == key) with
  | [] => some none
  | [(_, v)] => some (some v)
  | _ => none

/-! ## Making a value -/

/-- A number, or `null` in place of what is no finite number. -/
def ofFloat (x : Float) : JsonValue := (Numeral.ofFloat? x).elim null number

def ofText (text : String) : JsonValue := string ⟨text, true⟩

def ofMembers (members : List (String × JsonValue)) : JsonValue :=
  object (members.map fun (k, v) => (⟨k, true⟩, v))

end JsonValue

end DriverMonitor
