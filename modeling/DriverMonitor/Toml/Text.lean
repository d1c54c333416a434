import DriverMonitor.Json.Reader

/-! # Strings and keys of TOML

A basic string stands between quotes and knows escapes, a literal string stands between apostrophes
and knows none. Either kind may stand between three marks each and then go over several lines. The
closing three marks may follow one or two more, which belong to the text.
-/

namespace DriverMonitor.Toml

def isSpace (c : Char) : Bool := c == ' ' || c == '\t'

def skipSpaces (cs : List Char) : List Char := cs.dropWhile isSpace

/-- Whether a character may stand in strings and comments. -/
def isPrintable (c : Char) : Bool := c == '\t' || (0x20 ≤ c.toNat && c.toNat != 0x7f)

/-- What follows a line end. -/
def afterNewline? : List Char → Option (List Char)
  | '\n' :: rest => some rest
  | '\r' :: '\n' :: rest => some rest
  | _ => none

def skipNewline (cs : List Char) : List Char := (afterNewline? cs).getD cs

/-! ## Escapes -/

/-- What a character stands for behind a backslash. -/
def escaped? : Char → Option Char
  | 'b' => some '\x08'
  | 't' => some '\t'
  | 'n' => some '\n'
  | 'f' => some '\x0c'
  | 'r' => some '\r'
  | '"' => some '"'
  | '\\' => some '\\'
  | _ => none

/-- The character whose code point hexadecimal digits give. -/
def codePoint? (digits : List Char) : Option Char := do
  let n ← digits.foldlM (fun n c => (JsonValue.hexDigit? c).map (16 * n + ·)) 0
  if n.isValidChar then some (.ofNat n) else none

/-! ## Strings on one line -/

/-- A basic string behind its opening quote. -/
def readBasic : List Char → Option (List Char × List Char)
  | [] => none
  | '"' :: rest => some ([], rest)
  | '\\' :: 'u' :: a :: b :: c :: d :: rest => do
    let x ← codePoint? [a, b, c, d]
    (readBasic rest).map fun (cs, rest) => (x :: cs, rest)
  | '\\' :: 'U' :: a :: b :: c :: d :: e :: f :: g :: h :: rest => do
    let x ← codePoint? [a, b, c, d, e, f, g, h]
    (readBasic rest).map fun (cs, rest) => (x :: cs, rest)
  | '\\' :: c :: rest => do
    let x ← escaped? c
    (readBasic rest).map fun (cs, rest) => (x :: cs, rest)
  | c :: rest =>
    if isPrintable c ∧ c ≠ '\\' then (readBasic rest).map fun (cs, rest) => (c :: cs, rest)
    else none

/-- A literal string behind its opening apostrophe. -/
def readLiteral (cs : List Char) : Option (List Char × List Char) :=
  match cs.span (· != '\'') with
  | (text, '\'' :: rest) => if text.all isPrintable then some (text, rest) else none
  | _ => none

/-! ## Strings on several lines -/

/-- Whether a line ends here but for spaces. -/
def atLineEnd (cs : List Char) : Bool := (afterNewline? (skipSpaces cs)).isSome

/-- A basic string of several lines behind its opening quotes. `skipping` says that spaces and line
ends are passed over, as they are behind a backslash at the end of a line. -/
def readLongBasic (skipping : Bool) : List Char → Option (List Char × List Char)
  | [] => none
  | '"' :: '"' :: '"' :: '"' :: '"' :: rest => some (['"', '"'], rest)
  | '"' :: '"' :: '"' :: '"' :: rest => some (['"'], rest)
  | '"' :: '"' :: '"' :: rest => some ([], rest)
  | '\\' :: 'u' :: a :: b :: c :: d :: rest => do
    let x ← codePoint? [a, b, c, d]
    (readLongBasic false rest).map fun (cs, rest) => (x :: cs, rest)
  | '\\' :: 'U' :: a :: b :: c :: d :: e :: f :: g :: h :: rest => do
    let x ← codePoint? [a, b, c, d, e, f, g, h]
    (readLongBasic false rest).map fun (cs, rest) => (x :: cs, rest)
  | '\r' :: '\n' :: rest =>
    if skipping then readLongBasic true rest
    else (readLongBasic false rest).map fun (cs, rest) => ('\n' :: cs, rest)
  | '\\' :: c :: rest =>
    if atLineEnd (c :: rest) then readLongBasic true (c :: rest)
    else do
      let x ← escaped? c
      (readLongBasic false rest).map fun (cs, rest) => (x :: cs, rest)
  | c :: rest =>
    if skipping ∧ (isSpace c ∨ c = '\n') then readLongBasic true rest
    else if (isPrintable c ∧ c ≠ '\\') ∨ c = '\n' then
      (readLongBasic false rest).map fun (cs, rest) => (c :: cs, rest)
    else none

/-- A literal string of several lines behind its opening apostrophes. -/
def readLongLiteral : List Char → Option (List Char × List Char)
  | [] => none
  | '\'' :: '\'' :: '\'' :: '\'' :: '\'' :: rest => some (['\'', '\''], rest)
  | '\'' :: '\'' :: '\'' :: '\'' :: rest => some (['\''], rest)
  | '\'' :: '\'' :: '\'' :: rest => some ([], rest)
  | '\r' :: '\n' :: rest => (readLongLiteral rest).map fun (cs, rest) => ('\n' :: cs, rest)
  | c :: rest =>
    if isPrintable c ∨ c = '\n' then (readLongLiteral rest).map fun (cs, rest) => (c :: cs, rest)
    else none

/-- The string at the front, of any kind. -/
def readString : List Char → Option (String × List Char)
  | '"' :: '"' :: '"' :: rest => asText (readLongBasic false (skipNewline rest))
  | '"' :: rest => asText (readBasic rest)
  | '\'' :: '\'' :: '\'' :: rest => asText (readLongLiteral (skipNewline rest))
  | '\'' :: rest => asText (readLiteral rest)
  | _ => none
where
  asText (r : Option (List Char × List Char)) : Option (String × List Char) :=
    r.map fun (cs, rest) => (String.ofList cs, rest)

/-! ## Keys -/

def isBareChar (c : Char) : Bool := c.isAlphanum || c == '_' || c == '-'

def readKeyPart : List Char → Option (String × List Char)
  | '"' :: rest => (readBasic rest).map fun (cs, rest) => (String.ofList cs, rest)
  | '\'' :: rest => (readLiteral rest).map fun (cs, rest) => (String.ofList cs, rest)
  | cs =>
    match cs.span isBareChar with
    | ([], _) => none
    | (part, rest) => some (String.ofList part, rest)

/-- How deep tables may lie within each other. -/
def depthLimit : Nat := 80

/-- At most so many parts of a key with points between them, all with spaces around. -/
def readKeyParts : Nat → List Char → Option (List String × List Char)
  | 0, _ => none
  | parts + 1, cs => do
    let (part, rest) ← readKeyPart (skipSpaces cs)
    match skipSpaces rest with
    | '.' :: rest => (readKeyParts parts rest).map fun (key, rest) => (part :: key, rest)
    | rest => some ([part], rest)

/-- A key: one part or several with points between them. -/
def readKey (cs : List Char) : Option (List String × List Char) := readKeyParts (depthLimit - 1) cs

end DriverMonitor.Toml
