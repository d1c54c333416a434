import Mathlib
import DriverMonitor.Json.Printer
import DriverMonitor.Json.Reader

/-! # Writing a value and reading it again

What is written for a value is read as that value, `parse?_render`, provided that its numerals are
such as can be read and its strings are text. A numeral has no mark of its end, so reading goes on as
long as what follows could belong to it; behind a value there is always a comma, a bracket or the end.

Nothing that is written is a control character, so a value stays on one line.
-/

namespace DriverMonitor

/-! ## Numerals -/

namespace Numeral

structure WellFormed (n : Numeral) : Prop where
  whole_digits : ∀ c ∈ n.whole, c.isDigit = true
  whole_ne_nil : n.whole ≠ []
  no_needless_zero : n.whole.head? = some '0' → n.whole.length = 1
  fraction_digits : ∀ c ∈ n.fraction, c.isDigit = true

/-- Text that a numeral before it does not run on into. -/
def EndsAt (rest : List Char) : Prop :=
  ∀ c ∈ rest.head?, c.isDigit = false ∧ c ≠ '.' ∧ c ≠ 'e' ∧ c ≠ 'E'

def fractionChars (digits : List Char) : List Char := if digits = [] then [] else '.' :: digits

def exponentChars (exponent : Option Int) : List Char :=
  exponent.elim [] fun e => 'e' :: (toString e).toList

theorem toChars_append (n : Numeral) (rest : List Char) :
    n.toChars ++ rest = (if n.negative then ['-'] else []) ++
      (n.whole ++ (fractionChars n.fraction ++ (exponentChars n.exponent ++ rest))) := by
  simp only [toChars, fractionChars, exponentChars, List.append_assoc]

section Reading

variable {n : Numeral} {cs digits rest : List Char} {negative : Bool}

/-- Digits are read up to the first character that is none. -/
theorem readDigits_append (allDigits : ∀ c ∈ digits, c.isDigit = true) (nonempty : digits ≠ [])
    (ends : ∀ c ∈ rest.head?, c.isDigit = false) :
    readDigits (digits ++ rest) = some (digits, rest) := by
  have taken : (digits ++ rest).takeWhile Char.isDigit = digits := by
    rw [List.takeWhile_append_of_pos allDigits]
    cases rest with
    | nil => simp
    | cons c rest => simp [ends c rfl]
  have left : (digits ++ rest).dropWhile Char.isDigit = rest := by
    rw [List.dropWhile_append_of_pos allDigits]
    cases rest with
    | nil => rfl
    | cons c rest => simp [ends c rfl]
  rw [readDigits, List.span_eq_takeWhile_dropWhile, taken, left]
  cases digits with
  | nil => exact absurd rfl nonempty
  | cons c digits => rfl

theorem digits_of_readDigits (read : readDigits cs = some (digits, rest)) :
    (∀ c ∈ digits, c.isDigit = true) ∧ digits ≠ [] := by
  rw [readDigits, List.span_eq_takeWhile_dropWhile] at read
  split at read
  · cases read
  next nonempty =>
    cases read
    exact ⟨fun c inside => List.mem_takeWhile_imp inside,
      fun empty => nonempty _ (by rw [empty])⟩

theorem digits_of_readWhole (read : readWhole cs = some (digits, rest)) :
    (∀ c ∈ digits, c.isDigit = true) ∧ digits ≠ [] ∧
      (digits.head? = some '0' → digits.length = 1) := by
  simp only [readWhole, Option.bind_eq_bind, Option.bind_eq_some_iff] at read
  obtain ⟨⟨front, behind⟩, readFront, made⟩ := read
  obtain ⟨allDigits, nonempty⟩ := digits_of_readDigits readFront
  split at made
  · cases made
  next needed =>
    cases made
    exact ⟨allDigits, nonempty, fun zero => of_not_not fun long => needed ⟨zero, long⟩⟩

theorem digits_of_readFraction (read : readFraction cs = some (digits, rest)) :
    ∀ c ∈ digits, c.isDigit = true := by
  unfold readFraction at read
  split at read
  · exact (digits_of_readDigits read).1
  · cases read
    exact nofun

theorem wellFormed_of_readMagnitude (read : readMagnitude negative cs = some (n, rest)) :
    n.WellFormed := by
  simp only [readMagnitude, Option.bind_eq_bind, Option.bind_eq_some_iff] at read
  obtain ⟨⟨whole, _⟩, readWhole, ⟨fraction, _⟩, readFraction, _, -, made⟩ := read
  cases made
  obtain ⟨wholeDigits, nonempty, noNeedlessZero⟩ := digits_of_readWhole readWhole
  exact ⟨wholeDigits, nonempty, noNeedlessZero, digits_of_readFraction readFraction⟩

/-- Whatever is read is well formed, so nothing else can be read back. -/
theorem wellFormed_of_read (read : read cs = some (n, rest)) : n.WellFormed := by
  unfold Numeral.read at read
  split at read <;> exact wellFormed_of_readMagnitude read

/-- A fraction that is missing is not taken for one, unless a point follows. -/
theorem readFraction_append (allDigits : ∀ c ∈ digits, c.isDigit = true)
    (ends : ∀ c ∈ rest.head?, c.isDigit = false ∧ c ≠ '.') :
    readFraction (fractionChars digits ++ rest) = some (digits, rest) := by
  by_cases empty : digits = []
  · subst empty
    show readFraction rest = _
    unfold readFraction
    split
    next => exact absurd rfl (ends '.' rfl).2
    next => rfl
  · rw [fractionChars, if_neg empty]
    exact readDigits_append allDigits empty fun c first => (ends c first).1

theorem digitsToNat_toDigits (k : Nat) : digitsToNat (Nat.toDigits 10 k) = k := by
  have read : Nat.ofDigitChars 10 (Nat.toDigits 10 k) 0 = k := Nat.ofDigitChars_ten_toDigits
  rwa [Nat.ofDigitChars_eq_foldl] at read

theorem isDigit_of_mem_toDigits {k : Nat} {c : Char} (inside : c ∈ Nat.toDigits 10 k) :
    c.isDigit = true :=
  Nat.isDigit_of_mem_toDigits (by decide) (by decide) inside

theorem readDigits_toDigits (k : Nat) (ends : ∀ c ∈ rest.head?, c.isDigit = false) :
    (readDigits (Nat.toDigits 10 k ++ rest)).map (fun (digits, rest) => (digitsToNat digits, rest)) =
      some (k, rest) := by
  rw [readDigits_append (fun _ inside => isDigit_of_mem_toDigits inside) Nat.toDigits_ne_nil ends,
    Option.map_some]
  exact congrArg (fun m => some (m, rest)) (digitsToNat_toDigits k)

theorem ne_of_isDigit {c other : Char} (digit : c.isDigit = true) (noDigit : other.isDigit = false) :
    c ≠ other := by
  rintro rfl
  rw [noDigit] at digit
  cases digit

theorem toList_toString_ofNat (k : Nat) : (toString (Int.ofNat k)).toList = Nat.toDigits 10 k :=
  Nat.toList_repr

theorem toList_toString_negSucc (k : Nat) :
    (toString (Int.negSucc k)).toList = '-' :: Nat.toDigits 10 (k + 1) := by
  show ("-" ++ (k + 1).repr).toList = _
  rw [String.toList_append, Nat.toList_repr]
  rfl

theorem readPower_append (power : Int) (ends : ∀ c ∈ rest.head?, c.isDigit = false) :
    readPower ((toString power).toList ++ rest) = some (power, rest) := by
  cases power with
  | ofNat k =>
    have read := congrArg (Option.map fun (m, rest) => ((m : Int), rest)) (readDigits_toDigits k ends)
    rw [Option.map_map] at read
    obtain ⟨c, others, digits⟩ := List.exists_cons_of_ne_nil (Nat.toDigits_ne_nil (n := k) (b := 10))
    have digit : c.isDigit = true := isDigit_of_mem_toDigits (digits ▸ List.mem_cons_self)
    rw [toList_toString_ofNat]
    rw [digits] at read ⊢
    -- a digit is no sign
    unfold readPower
    split
    next same => exact absurd (List.cons.inj same).1 (ne_of_isDigit digit rfl)
    next same => exact absurd (List.cons.inj same).1 (ne_of_isDigit digit rfl)
    next => exact read
  | negSucc k =>
    have read := congrArg (Option.map fun (m, rest) => (-(m : Int), rest))
      (readDigits_toDigits (k + 1) ends)
    rw [Option.map_map] at read
    rw [toList_toString_negSucc]
    exact read

/-- An exponent ends with its digits, and one that is missing is noticed by what follows. -/
theorem readExponent_append (exponent : Option Int) (ends : EndsAt rest) :
    readExponent (exponentChars exponent ++ rest) = some (exponent, rest) := by
  cases exponent with
  | none =>
    show readExponent rest = _
    unfold readExponent
    split
    next => exact absurd rfl (ends 'e' rfl).2.2.1
    next => exact absurd rfl (ends 'E' rfl).2.2.2
    next => rfl
  | some e =>
    show (readPower ((toString e).toList ++ rest)).map _ = _
    rw [readPower_append e fun c first => (ends c first).1, Option.map_some]

theorem head_exponentChars (exponent : Option Int) (ends : EndsAt rest) :
    ∀ c ∈ (exponentChars exponent ++ rest).head?, c.isDigit = false ∧ c ≠ '.' := by
  intro c first
  cases exponent with
  | none => exact ⟨(ends c first).1, (ends c first).2.1⟩
  | some e =>
    cases first
    exact ⟨rfl, nofun⟩

theorem head_fractionChars (ends : ∀ c ∈ rest.head?, c.isDigit = false ∧ c ≠ '.') :
    ∀ c ∈ (fractionChars digits ++ rest).head?, c.isDigit = false := by
  intro c first
  rw [fractionChars] at first
  split at first
  · exact (ends c first).1
  · cases first
    rfl

theorem readMagnitude_append (wellFormed : n.WellFormed) (ends : EndsAt rest) :
    readMagnitude n.negative
        (n.whole ++ (fractionChars n.fraction ++ (exponentChars n.exponent ++ rest))) =
      some (n, rest) := by
  obtain ⟨wholeDigits, nonempty, noNeedlessZero, fractionDigits⟩ := wellFormed
  have behindFraction := head_exponentChars n.exponent ends
  have noZero : ¬ (n.whole.head? = some '0' ∧ n.whole.length ≠ 1) :=
    fun zero => zero.2 (noNeedlessZero zero.1)
  simp only [readMagnitude, readWhole, Option.bind_eq_bind, Option.pure_def, Option.bind_some,
    readDigits_append wholeDigits nonempty (head_fractionChars behindFraction), if_neg noZero,
    readFraction_append fractionDigits behindFraction, readExponent_append n.exponent ends]

/-- A numeral is read up to its end. -/
theorem read_append (wellFormed : n.WellFormed) (ends : EndsAt rest) :
    read (n.toChars ++ rest) = some (n, rest) := by
  have magnitude := readMagnitude_append wellFormed ends
  rw [toChars_append]
  cases sign : n.negative with
  | true =>
    rw [sign] at magnitude
    exact magnitude
  | false =>
    rw [sign] at magnitude
    obtain ⟨c, others, digits⟩ := List.exists_cons_of_ne_nil wellFormed.whole_ne_nil
    have digit : c.isDigit = true := wellFormed.whole_digits c (digits ▸ List.mem_cons_self)
    rw [digits] at magnitude ⊢
    -- the first digit is no sign either
    unfold Numeral.read
    split
    next same => exact absurd (List.cons.inj same).1 (ne_of_isDigit digit rfl)
    next => exact magnitude

end Reading

end Numeral

namespace JsonValue

/-! ## Strings -/

section Strings

variable {c : Char} {rest : List Char}

theorem hexDigit?_digitChar : ∀ k < 16, hexDigit? (Nat.digitChar k) = some k := by decide

/-- A control character is escaped by its code in four hexadecimal digits. -/
theorem hexUnit?_escape (control : c.toNat < 0x20) :
    hexUnit? '0' '0' (Nat.digitChar (c.toNat / 16)) (Nat.digitChar (c.toNat % 16)) = some c.toNat := by
  have zero : hexDigit? '0' = some 0 := rfl
  have first := hexDigit?_digitChar (c.toNat / 16) (by omega)
  have second := hexDigit?_digitChar (c.toNat % 16) (by omega)
  simp only [hexUnit?, zero, first, second, Option.pure_def, Option.bind_eq_bind, Option.bind_some,
    Option.some.injEq]
  omega

theorem readUnits_plain (printed : 0x20 ≤ c.toNat) (notQuote : c ≠ '"') (notBackslash : c ≠ '\\')
    (rest : List Char) :
    readUnits (c :: rest) = (readUnits rest).map fun (units, rest) => (c.toNat :: units, rest) := by
  have plain : ¬ (c.toNat < 0x20 ∨ c = '\\') := not_or.mpr ⟨by omega, notBackslash⟩
  rw [readUnits.eq_def]
  split
  next none => cases none
  next same => exact absurd (List.cons.inj same).1 notQuote
  next same => exact absurd (List.cons.inj same).1 notBackslash
  next same => exact absurd (List.cons.inj same).1 notBackslash
  next same =>
    cases same
    rw [if_neg plain]
    cases readUnits rest <;> rfl

theorem readUnits_backslash {meant : Char} (escaped : escaped? c = some meant) (rest : List Char) :
    readUnits ('\\' :: c :: rest) =
      (readUnits rest).map fun (units, rest) => (meant.toNat :: units, rest) := by
  have notUnit : c ≠ 'u' := by
    rintro rfl
    cases escaped
  rw [readUnits.eq_def]
  split
  next none => cases none
  next same => cases (List.cons.inj same).1
  -- an escape by number, for which the letter is u
  next same => exact absurd (List.cons.inj (List.cons.inj same).2).1 notUnit
  next same =>
    cases same
    rw [escaped]
    cases readUnits rest <;> rfl
  next notEscape same =>
    obtain ⟨backslash, behind⟩ := List.cons.inj same
    exact (notEscape _ _ backslash.symm behind.symm).elim

/-- Every character is read from its own escape. -/
theorem readUnits_escape (c : Char) (rest : List Char) :
    readUnits (escape c ++ rest) =
      (readUnits rest).map fun (units, rest) => (c.toNat :: units, rest) := by
  unfold escape
  split
  case h_8 notQuote notBackslash _ _ _ _ _ =>
    split
    next control =>
      have unit := hexUnit?_escape control
      simp only [List.cons_append, List.nil_append, readUnits, unit]
      cases readUnits rest <;> rfl
    next printed => exact readUnits_plain (by omega) notQuote notBackslash rest
  -- the other characters each have an escape of one letter
  all_goals exact readUnits_backslash rfl rest

/-- A character is no half of a surrogate pair. -/
theorem not_isHalf (c : Char) : isHighHalf c.toNat = false ∧ isLowHalf c.toNat = false := by
  have valid : c.toNat < 0xd800 ∨ 0xdfff < c.toNat ∧ c.toNat < 0x110000 := c.valid
  simp only [isHighHalf, isLowHalf, Bool.and_eq_false_iff, decide_eq_false_iff_not]
  omega

/-- No character is half of a pair, so no two are joined into one. -/
theorem joinUnits_toNat (cs : List Char) : joinUnits (cs.map Char.toNat) = ⟨String.ofList cs, true⟩ := by
  induction cs with
  | nil => rfl
  | cons c cs ih =>
    obtain ⟨notHigh, notLow⟩ := not_isHalf c
    -- pairs are looked for before single units
    cases cs with
    | nil => simp [joinUnits, notHigh, notLow]
    | cons d cs =>
      rw [List.map_cons] at ih
      simp [joinUnits, notHigh, notLow, ih]

theorem readUnits_flatMap_escape (cs rest : List Char) :
    readUnits (cs.flatMap escape ++ '"' :: rest) = some (cs.map Char.toNat, rest) := by
  induction cs with
  | nil => rfl
  | cons c cs ih =>
    rw [List.flatMap_cons, List.append_assoc, readUnits_escape, ih]
    rfl

/-- A string is read up to its closing quote. -/
theorem readString_append (text : String) (rest : List Char) :
    readString (text.toList.flatMap escape ++ '"' :: rest) = some (⟨text, true⟩, rest) := by
  have joined := joinUnits_toNat text.toList
  rw [String.ofList_toList] at joined
  rw [readString, readUnits_flatMap_escape, Option.map_some]
  exact congrArg (fun s => some (s, rest)) joined

end Strings

/-! ## Values -/

/-- A value that can be read: so can its numerals, and its strings are text. -/
inductive WellFormed : JsonValue → Prop where
  | null : WellFormed null
  | bool (b : Bool) : WellFormed (bool b)
  | number {n : Numeral} (numeral : n.WellFormed) : WellFormed (number n)
  | string (text : String) : WellFormed (string ⟨text, true⟩)
  | array {items : List JsonValue} (all : ∀ v ∈ items, WellFormed v) : WellFormed (array items)
  | object {members : List (JsonString × JsonValue)} (keys : ∀ m ∈ members, m.1.whole = true)
    (values : ∀ m ∈ members, WellFormed m.2) : WellFormed (object members)

def ReadsBack (v : JsonValue) : Prop :=
  ∀ {steps : Nat} {rest : List Char}, v.toChars.length ≤ steps → Numeral.EndsAt rest →
    readValue steps (v.toChars ++ rest) = some (v, rest)

section Values

variable {c : Char} {cs rest : List Char} {steps : Nat} {n : Numeral} {v : JsonValue}
variable {items : List JsonValue} {key : JsonString} {members : List (JsonString × JsonValue)}

theorem skipBlanks_cons (printed : isBlank c = false) (rest : List Char) :
    skipBlanks (c :: rest) = c :: rest := by
  simp [skipBlanks, printed]

theorem first_of_numeral (wellFormed : n.WellFormed) :
    ∃ c others, n.toChars = c :: others ∧ (c = '-' ∨ c.isDigit = true) := by
  obtain ⟨c, others, digits⟩ := List.exists_cons_of_ne_nil wellFormed.whole_ne_nil
  have digit : c.isDigit = true := wellFormed.whole_digits c (digits ▸ List.mem_cons_self)
  rw [Numeral.toChars, digits]
  cases n.negative with
  | true => exact ⟨_, _, rfl, .inl rfl⟩
  | false => exact ⟨_, _, rfl, .inr digit⟩

theorem ne_of_first (first : c = '-' ∨ c.isDigit = true) {other : Char} (notSign : other ≠ '-')
    (noDigit : other.isDigit = false) : c ≠ other := by
  obtain rfl | digit := first
  · exact notSign.symm
  · exact Numeral.ne_of_isDigit digit noDigit

/-- A sign or a digit announces a number. -/
theorem readValue_numeral (first : c = '-' ∨ c.isDigit = true) :
    readValue (steps + 1) (c :: cs) =
      (Numeral.read (c :: cs)).map fun (n, rest) => (number n, rest) := by
  have printed : isBlank c = false := by
    simp [isBlank, ne_of_first first]
  rw [readValue, skipBlanks_cons printed]
  -- neither a sign nor a digit begins another kind of value
  split
  next same => exact absurd (List.cons.inj same).1 (ne_of_first first (by decide) rfl)
  next same => exact absurd (List.cons.inj same).1 (ne_of_first first (by decide) rfl)
  next same => exact absurd (List.cons.inj same).1 (ne_of_first first (by decide) rfl)
  next same => exact absurd (List.cons.inj same).1 (ne_of_first first (by decide) rfl)
  next same => exact absurd (List.cons.inj same).1 (ne_of_first first (by decide) rfl)
  next same => exact absurd (List.cons.inj same).1 (ne_of_first first (by decide) rfl)
  next => rfl

/-- A value does not begin with a blank, nor as if a list of values ended in its place. -/
theorem first_of_wellFormed (wellFormed : v.WellFormed) :
    ∃ c others, v.toChars = c :: others ∧ isBlank c = false ∧ c ≠ ']' := by
  cases wellFormed with
  | null => exact ⟨_, _, rfl, rfl, by decide⟩
  | bool b => cases b <;> exact ⟨_, _, rfl, rfl, by decide⟩
  | number numeral =>
    obtain ⟨c, others, text, first⟩ := first_of_numeral numeral
    exact ⟨c, others, text, by simp [isBlank, ne_of_first first], ne_of_first first (by decide) rfl⟩
  | string text => exact ⟨_, _, rfl, rfl, by decide⟩
  | @array items _ => cases items <;> exact ⟨_, _, rfl, rfl, by decide⟩
  | @object members _ _ =>
    cases members with
    | nil => exact ⟨_, _, rfl, rfl, by decide⟩
    | cons member members => exact ⟨_, _, rfl, rfl, by decide⟩

theorem endsAt_cons (noPart : c.isDigit = false ∧ c ≠ '.' ∧ c ≠ 'e' ∧ c ≠ 'E') (rest : List Char) :
    Numeral.EndsAt (c :: rest) := by
  intro first same
  cases same
  exact noPart

/-- A comma or a bracket follows an item, and a numeral does not run on into either. -/
theorem endsAt_itemsToChars (items : List JsonValue) (rest : List Char) :
    Numeral.EndsAt (itemsToChars items ++ rest) := by
  cases items <;> exact endsAt_cons (by decide) _

theorem endsAt_membersToChars (members : List (JsonString × JsonValue)) (rest : List Char) :
    Numeral.EndsAt (membersToChars members ++ rest) := by
  cases members with
  | nil => exact endsAt_cons (by decide) _
  | cons member members => exact endsAt_cons (by decide) _

theorem length_itemsToChars_pos (items : List JsonValue) : 0 < (itemsToChars items).length := by
  cases items <;> exact Nat.zero_lt_succ _

theorem length_membersToChars_pos (members : List (JsonString × JsonValue)) :
    0 < (membersToChars members).length := by
  cases members with
  | nil => exact Nat.zero_lt_succ _
  | cons member members => exact Nat.zero_lt_succ _

/-- There are enough steps if there are as many as characters. -/
theorem readItems_append (first : ReadsBack v) (others : ∀ w ∈ items, ReadsBack w)
    (enough : v.toChars.length + (itemsToChars items).length ≤ steps) :
    readItems steps (v.toChars ++ (itemsToChars items ++ rest)) = some (v :: items, rest) := by
  -- over the further items, each of which becomes the first in its turn
  induction items generalizing v steps with
  | nil =>
    have bracket := length_itemsToChars_pos []
    obtain ⟨steps, rfl⟩ : ∃ k, steps = k + 1 := ⟨steps - 1, by omega⟩
    rw [readItems, first (by omega) (endsAt_itemsToChars [] rest)]
    rfl
  | cons w items ih =>
    simp only [itemsToChars, List.length_cons, List.length_append] at enough
    obtain ⟨steps, rfl⟩ : ∃ k, steps = k + 1 := ⟨steps - 1, by omega⟩
    obtain ⟨next, later⟩ := List.forall_mem_cons.mp others
    have rests : readItems steps (w.toChars ++ (itemsToChars items ++ rest)) =
        some (w :: items, rest) := ih next later (by omega)
    rw [readItems, first (by omega) (endsAt_itemsToChars (w :: items) rest)]
    show (readItems steps (w.toChars ++ itemsToChars items ++ rest)).map _ = _
    rw [List.append_assoc, rests]
    rfl

/-- What members are read from behind a key. -/
theorem readMembers_key (text : String) (cs : List Char) :
    readMembers (steps + 1) (stringChars text ++ ':' :: cs) =
      (readValue steps cs).bind fun (v, rest) =>
        match skipBlanks rest with
        | ',' :: rest => (readMembers steps rest).map fun (ms, rest) => ((⟨text, true⟩, v) :: ms, rest)
        | '}' :: rest => some ([(⟨text, true⟩, v)], rest)
        | _ => none := by
  have key := readString_append text (':' :: cs)
  rw [readMembers]
  show (readString (text.toList.flatMap escape ++ ['"'] ++ ':' :: cs)).bind _ = _
  rw [List.append_assoc]
  show (readString (text.toList.flatMap escape ++ '"' :: ':' :: cs)).bind _ = _
  rw [key]
  rfl

theorem readMembers_append (whole : key.whole = true) (first : ReadsBack v)
    (keys : ∀ m ∈ members, m.1.whole = true) (others : ∀ m ∈ members, ReadsBack m.2)
    (enough : v.toChars.length + (membersToChars members).length ≤ steps) :
    readMembers steps
        (stringChars key.text ++ ':' :: (v.toChars ++ (membersToChars members ++ rest))) =
      some ((key, v) :: members, rest) := by
  obtain ⟨text, _⟩ := key
  subst whole
  induction members generalizing text v steps with
  | nil =>
    -- the closing brace leaves one more step
    have brace := length_membersToChars_pos []
    obtain ⟨steps, rfl⟩ : ∃ k, steps = k + 1 := ⟨steps - 1, by omega⟩
    rw [readMembers_key, first (by omega) (endsAt_membersToChars [] rest)]
    rfl
  | cons member members ih =>
    obtain ⟨⟨name, _⟩, w⟩ := member
    obtain ⟨whole, otherKeys⟩ := List.forall_mem_cons.mp keys
    obtain ⟨next, later⟩ := List.forall_mem_cons.mp others
    subst whole
    simp only [membersToChars, List.length_cons, List.length_append] at enough
    obtain ⟨steps, rfl⟩ : ∃ k, steps = k + 1 := ⟨steps - 1, by omega⟩
    -- the other members are read after the comma
    have rests : readMembers steps
        (stringChars name ++ ':' :: (w.toChars ++ (membersToChars members ++ rest))) =
          some ((⟨name, true⟩, w) :: members, rest) := ih (v := w) next otherKeys later (by omega) name
    rw [readMembers_key, first (by omega) (endsAt_membersToChars _ rest)]
    show (readMembers steps
      (stringChars name ++ ':' :: (w.toChars ++ membersToChars members) ++ rest)).map _ = _
    rw [List.append_assoc, List.cons_append, List.append_assoc, rests]
    rfl

theorem readsBack_array (wellFormed : ∀ v ∈ items, v.WellFormed) (all : ∀ v ∈ items, ReadsBack v) :
    ReadsBack (array items) := by
  intro steps rest enough ends
  cases items with
  | nil =>
    obtain ⟨steps, rfl⟩ := Nat.exists_eq_add_of_lt enough
    rfl
  | cons v items =>
    obtain ⟨first, others⟩ := List.forall_mem_cons.mp all
    obtain ⟨c, front, text, printed, notClosed⟩ := first_of_wellFormed (wellFormed v List.mem_cons_self)
    simp only [toChars, List.length_cons, List.length_append] at enough
    obtain ⟨steps, rfl⟩ : ∃ k, steps = k + 1 := ⟨steps - 1, by omega⟩
    have read : readItems steps (v.toChars ++ (itemsToChars items ++ rest)) = some (v :: items, rest) :=
      readItems_append first others (by omega)
    show readValue (steps + 1) ('[' :: (v.toChars ++ itemsToChars items ++ rest)) = _
    rw [List.append_assoc, readValue]
    rw [text, List.cons_append] at read ⊢
    simp only [skipBlanks_cons (show isBlank '[' = false from rfl), skipBlanks_cons printed]
    -- no value begins like the end of an array
    split
    next same => exact absurd (List.cons.inj same).1 notClosed
    next =>
      rw [read]
      rfl

theorem readsBack_object (keys : ∀ m ∈ members, m.1.whole = true)
    (values : ∀ m ∈ members, ReadsBack m.2) : ReadsBack (object members) := by
  intro steps rest enough ends
  cases members with
  | nil =>
    obtain ⟨steps, rfl⟩ := Nat.exists_eq_add_of_lt enough
    rfl
  | cons member members =>
    obtain ⟨key, v⟩ := member
    obtain ⟨whole, otherKeys⟩ := List.forall_mem_cons.mp keys
    obtain ⟨first, others⟩ := List.forall_mem_cons.mp values
    simp only [toChars, List.length_cons, List.length_append] at enough
    obtain ⟨steps, rfl⟩ : ∃ k, steps = k + 1 := ⟨steps - 1, by omega⟩
    have read : readMembers steps
        (stringChars key.text ++ ':' :: (v.toChars ++ (membersToChars members ++ rest))) =
          some ((key, v) :: members, rest) :=
      readMembers_append whole first otherKeys others (by omega)
    simp only [toChars, List.cons_append, List.append_assoc]
    show (readMembers steps
      (stringChars key.text ++ ':' :: (v.toChars ++ (membersToChars members ++ rest)))).map _ = _
    rw [read]
    rfl

/-- By induction on the value: arrays and objects read their parts back one by one. -/
theorem readsBack_of_wellFormed (wellFormed : v.WellFormed) : ReadsBack v := by
  induction wellFormed with
  | null =>
    intro steps rest enough ends
    obtain ⟨steps, rfl⟩ := Nat.exists_eq_add_of_lt enough
    rfl
  | bool b =>
    intro steps rest enough ends
    cases b <;> obtain ⟨steps, rfl⟩ := Nat.exists_eq_add_of_lt enough <;> rfl
  | @number n numeral =>
    intro steps rest enough ends
    obtain ⟨c, others, text, first⟩ := first_of_numeral numeral
    -- the digits end where the numeral does, since nothing behind it continues it
    have read := Numeral.read_append numeral ends
    show readValue steps (n.toChars ++ rest) = _
    change n.toChars.length ≤ steps at enough
    rw [text] at enough read ⊢
    obtain ⟨steps, rfl⟩ := Nat.exists_eq_add_of_lt enough
    rw [List.cons_append] at read ⊢
    rw [readValue_numeral first, read]
    rfl
  | string text =>
    intro steps rest enough ends
    obtain ⟨steps, rfl⟩ := Nat.exists_eq_add_of_lt enough
    show (readString (text.toList.flatMap escape ++ ['"'] ++ rest)).map _ = _
    rw [List.append_assoc]
    show (readString (text.toList.flatMap escape ++ '"' :: rest)).map _ = _
    rw [readString_append]
    rfl
  | array wellFormed all => exact readsBack_array wellFormed all
  | object keys values all => exact readsBack_object keys all

end Values

/-- What is written for a well-formed value is read as this value, to the last character. -/
theorem parse?_render (wellFormed : v.WellFormed) : parse? v.render = some v := by
  have read : readValue (v.toChars.length + 1) (v.toChars ++ []) = some (v, []) :=
    readsBack_of_wellFormed wellFormed (Nat.le_succ _) nofun
  rw [List.append_nil] at read
  simp only [parse?, render, String.toList_ofList, read]
  rfl

/-! ## One line -/

section Printed

variable {v : JsonValue} {items : List JsonValue} {members : List (JsonString × JsonValue)}

def Printed (cs : List Char) : Prop := ∀ c ∈ cs, 0x20 ≤ c.toNat

@[simp] theorem printed_nil : Printed [] := nofun

@[simp] theorem printed_cons {c : Char} {cs : List Char} :
    Printed (c :: cs) ↔ 0x20 ≤ c.toNat ∧ Printed cs := List.forall_mem_cons

@[simp] theorem printed_append {front back : List Char} :
    Printed (front ++ back) ↔ Printed front ∧ Printed back := List.forall_mem_append

theorem printed_of_digits {digits : List Char} (allDigits : ∀ c ∈ digits, c.isDigit = true) :
    Printed digits := by
  intro c inside
  have digit := allDigits c inside
  simp only [Char.isDigit, Bool.and_eq_true, decide_eq_true_eq, ge_iff_le, UInt32.le_iff_toNat_le]
    at digit
  exact Nat.le_trans (by decide) digit.1

theorem printed_numeral {n : Numeral} (wellFormed : n.WellFormed) : Printed n.toChars := by
  have whole := printed_of_digits wellFormed.whole_digits
  have fraction : Printed (Numeral.fractionChars n.fraction) := by
    rw [Numeral.fractionChars]
    split
    · exact printed_nil
    · exact printed_cons.mpr ⟨by decide, printed_of_digits wellFormed.fraction_digits⟩
  have exponent : Printed (Numeral.exponentChars n.exponent) := by
    have power (k : Nat) : Printed (Nat.toDigits 10 k) :=
      printed_of_digits fun _ inside => Numeral.isDigit_of_mem_toDigits inside
    match n.exponent with
    | none => exact printed_nil
    | some (.ofNat k) =>
      rw [Numeral.exponentChars, Option.elim_some, Numeral.toList_toString_ofNat]
      exact printed_cons.mpr ⟨by decide, power k⟩
    | some (.negSucc k) =>
      rw [Numeral.exponentChars, Option.elim_some, Numeral.toList_toString_negSucc]
      simp [power]
  -- sign, digits, fraction and exponent in turn
  have parts := Numeral.toChars_append n []
  rw [List.append_nil, List.append_nil] at parts
  rw [parts]
  cases n.negative <;> simp [whole, fraction, exponent]

/-- Escaping leaves no control characters. -/
theorem printed_escape (c : Char) : Printed (escape c) := by
  have hex : ∀ k < 16, 0x20 ≤ (Nat.digitChar k).toNat := by decide
  unfold escape
  split
  case h_8 =>
    split
    next control =>
      have first := hex (c.toNat / 16) (by omega)
      have second := hex (c.toNat % 16) (by omega)
      simp [first, second]
    next printed => simp [Nat.not_lt.mp printed]
  all_goals simp

theorem printed_stringChars (text : String) : Printed (stringChars text) := by
  have inside : Printed (text.toList.flatMap escape) := by
    intro c inside
    obtain ⟨d, -, inside⟩ := List.mem_flatMap.mp inside
    exact printed_escape d c inside
  simp [stringChars, inside]

theorem printed_itemsToChars (all : ∀ v ∈ items, Printed v.toChars) :
    Printed (itemsToChars items) := by
  induction items with
  | nil => simp [itemsToChars]
  | cons v items ih =>
    obtain ⟨first, others⟩ := List.forall_mem_cons.mp all
    simp [itemsToChars, first, ih others]

theorem printed_membersToChars (all : ∀ m ∈ members, Printed m.2.toChars) :
    Printed (membersToChars members) := by
  induction members with
  | nil => simp [membersToChars]
  | cons member members ih =>
    obtain ⟨first, others⟩ := List.forall_mem_cons.mp all
    simp [membersToChars, printed_stringChars, first, ih others]

/-- A value is written without control characters. -/
theorem printed_of_wellFormed (wellFormed : v.WellFormed) : Printed v.toChars := by
  induction wellFormed with
  | null => simp [toChars]
  | bool b => cases b <;> simp [toChars]
  | number numeral => exact printed_numeral numeral
  | string text => exact printed_stringChars text
  | @array items wellFormed all =>
    cases items with
    | nil => simp [toChars]
    | cons v items =>
      obtain ⟨first, others⟩ := List.forall_mem_cons.mp all
      simp [toChars, first, printed_itemsToChars others]
  | @object members keys values all =>
    cases members with
    | nil => simp [toChars]
    | cons member members =>
      obtain ⟨first, others⟩ := List.forall_mem_cons.mp all
      simp [toChars, printed_stringChars, first, printed_membersToChars others]

end Printed

end JsonValue

end DriverMonitor
