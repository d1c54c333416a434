import DriverMonitor.Json.Value

/-! # Reading data values

`JsonValue.parse?` reads one value with nothing but blanks around it. It takes everything that is
well formed: strings that hold half of a surrogate pair, numbers beyond every range, and arrays of
any depth. What a reader of the value refuses of these is said by `JsonValue.isPlain` and by the
functions that look at a value.

Every step of reading takes at least one character away, so the number of characters bounds the
number of steps.
-/

namespace DriverMonitor.JsonValue

/-! ## Strings -/

def hexDigit? (c : Char) : Option Nat :=
  if c.isDigit then some (c.toNat - '0'.toNat)
  else if 'a' ≤ c ∧ c ≤ 'f' then some (c.toNat - 'a'.toNat + 10)
  else if 'A' ≤ c ∧ c ≤ 'F' then some (c.toNat - 'A'.toNat + 10)
  else none

/-- The number that four hexadecimal digits stand for. -/
def hexUnit? (a b c d : Char) : Option Nat := do
  return (((← hexDigit? a) * 16 + (← hexDigit? b)) * 16 + (← hexDigit? c)) * 16 + (← hexDigit? d)

/-- What a character stands for behind a backslash. -/
def escaped? : Char → Option Char
  | '"' => some '"'
  | '\\' => some '\\'
  | '/' => some '/'
  | 'b' => some '\x08'
  | 'f' => some '\x0c'
  | 'n' => some '\n'
  | 'r' => some '\r'
  | 't' => some '\t'
  | _ => none

/-- The code points of a string up to its closing quote, and what follows it. Escapes may also give
halves of surrogate pairs. -/
def readUnits : List Char → Option (List Nat × List Char)
  | [] => none
  | '"' :: rest => some ([], rest)
  | '\\' :: 'u' :: a :: b :: c :: d :: rest => do
    let unit ← hexUnit? a b c d
    let (units, rest) ← readUnits rest
    return (unit :: units, rest)
  | '\\' :: c :: rest => do
    let c ← escaped? c
    let (units, rest) ← readUnits rest
    return (c.toNat :: units, rest)
  | c :: rest =>
    if c.toNat < 0x20 ∨ c = '\\' then none
    else do
      let (units, rest) ← readUnits rest
      return (c.toNat :: units, rest)

def isHighHalf (unit : Nat) : Bool := 0xd800 ≤ unit && unit < 0xdc00

def isLowHalf (unit : Nat) : Bool := 0xdc00 ≤ unit && unit < 0xe000

/-- Joins halves of surrogate pairs. -/
def joinUnits : List Nat → JsonString
  | [] => ⟨"", true⟩
  | high :: low :: rest =>
    if isHighHalf high && isLowHalf low then
      let tail := joinUnits rest
      ⟨String.singleton (.ofNat (0x10000 + (high - 0xd800) * 0x400 + (low - 0xdc00))) ++ tail.text,
        tail.whole⟩
    else
      let tail := joinUnits (low :: rest)
      if isHighHalf high || isLowHalf high then ⟨"\ufffd" ++ tail.text, false⟩
      else ⟨String.singleton (.ofNat high) ++ tail.text, tail.whole⟩
  | [unit] =>
    if isHighHalf unit || isLowHalf unit then ⟨"\ufffd", false⟩
    else ⟨String.singleton (.ofNat unit), true⟩

/-- A string behind its opening quote. -/
def readString (cs : List Char) : Option (JsonString × List Char) :=
  (readUnits cs).map fun (units, rest) => (joinUnits units, rest)

/-! ## Values -/

def isBlank (c : Char) : Bool := c == ' ' || c == '\n' || c == '\t' || c == '\r'

def skipBlanks (cs : List Char) : List Char := cs.dropWhile isBlank

mutual

/-- The value at the front, behind blanks. -/
def readValue : Nat → List Char → Option (JsonValue × List Char)
  | 0, _ => none
  | steps + 1, cs =>
    match skipBlanks cs with
    | 'n' :: 'u' :: 'l' :: 'l' :: rest => some (null, rest)
    | 't' :: 'r' :: 'u' :: 'e' :: rest => some (bool true, rest)
    | 'f' :: 'a' :: 'l' :: 's' :: 'e' :: rest => some (bool false, rest)
    | '"' :: rest => (readString rest).map fun (s, rest) => (string s, rest)
    | '[' :: rest =>
      match skipBlanks rest with
      | ']' :: rest => some (array [], rest)
      | rest => (readItems steps rest).map fun (items, rest) => (array items, rest)
    | '{' :: rest =>
      match skipBlanks rest with
      | '}' :: rest => some (object [], rest)
      | rest => (readMembers steps rest).map fun (members, rest) => (object members, rest)
    | rest => (Numeral.read rest).map fun (n, rest) => (number n, rest)

/-- Items up to the closing bracket, at least one. -/
def readItems : Nat → List Char → Option (List JsonValue × List Char)
  | 0, _ => none
  | steps + 1, cs => do
    let (v, rest) ← readValue steps cs
    match skipBlanks rest with
    | ',' :: rest => (readItems steps rest).map fun (items, rest) => (v :: items, rest)
    | ']' :: rest => some ([v], rest)
    | _ => none

/-- Members up to the closing brace, at least one. -/
def readMembers : Nat → List Char → Option (List (JsonString × JsonValue) × List Char)
  | 0, _ => none
  | steps + 1, cs => do
    match skipBlanks cs with
    | '"' :: rest =>
      let (key, rest) ← readString rest
      match skipBlanks rest with
      | ':' :: rest =>
        let (v, rest) ← readValue steps rest
        match skipBlanks rest with
        | ',' :: rest => (readMembers steps rest).map fun (ms, rest) => ((key, v) :: ms, rest)
        | '}' :: rest => some ([(key, v)], rest)
        | _ => none
      | _ => none
    | _ => none

end

def parse? (text : String) : Option JsonValue := do
  let cs := text.toList
  let (v, rest) ← readValue (cs.length + 1) cs
  if skipBlanks rest = [] then some v else none

end DriverMonitor.JsonValue
