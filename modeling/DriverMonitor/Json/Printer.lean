import DriverMonitor.Json.Value

/-! # Writing data values

Values are written on one line without blanks. In a string only what has to be escaped is.
-/

namespace DriverMonitor.JsonValue

/-- A character inside a string. -/
def escape (c : Char) : List Char :=
  match c with
  | '"' => ['\\', '"']
  | '\\' => ['\\', '\\']
  | '\x08' => ['\\', 'b']
  | '\x0c' => ['\\', 'f']
  | '\n' => ['\\', 'n']
  | '\r' => ['\\', 'r']
  | '\t' => ['\\', 't']
  | c =>
    if c.toNat < 0x20 then
      ['\\', 'u', '0', '0', Nat.digitChar (c.toNat / 16), Nat.digitChar (c.toNat % 16)]
    else [c]

def stringChars (s : String) : List Char := '"' :: s.toList.flatMap escape ++ ['"']

mutual

def toChars : JsonValue → List Char
  | null => ['n', 'u', 'l', 'l']
  | bool true => ['t', 'r', 'u', 'e']
  | bool false => ['f', 'a', 'l', 's', 'e']
  | number n => n.toChars
  | string s => stringChars s.text
  | array [] => ['[', ']']
  | array (v :: rest) => '[' :: (v.toChars ++ itemsToChars rest)
  | object [] => ['{', '}']
  | object ((k, v) :: rest) => '{' :: (stringChars k.text ++ ':' :: (v.toChars ++ membersToChars rest))

/-- Further items and the closing bracket. -/
def itemsToChars : List JsonValue → List Char
  | [] => [']']
  | v :: rest => ',' :: (v.toChars ++ itemsToChars rest)

/-- Further members and the closing brace. -/
def membersToChars : List (JsonString × JsonValue) → List Char
  | [] => ['}']
  | (k, v) :: rest => ',' :: (stringChars k.text ++ ':' :: (v.toChars ++ membersToChars rest))

end

def render (v : JsonValue) : String := String.ofList v.toChars

end DriverMonitor.JsonValue
