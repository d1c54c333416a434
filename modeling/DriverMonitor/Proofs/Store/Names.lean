import DriverMonitor.Proofs.Store.FileName

/-! # The names that list a slot

A slot is read from its decimal numeral with any zeros, and perhaps a plus sign, in front of it, and
from nothing else: `SlotId.parse_eq_ok_iff`. So the names that list a slot are that of its own file
and those which pad it: `SlotId.ofFileName?_eq_some_iff`.
-/

namespace DriverMonitor

namespace SlotId

/-! ## Numerals -/

theorem isDigit_of_digitValue? {c : Char} {d : Nat} (read : digitValue? c = some d) :
    c.isDigit = true ∧ d = c.toNat - '0'.toNat := by
  rw [digitValue?] at read
  split at read
  next bounds =>
    refine ⟨?_, (Option.some.inj read).symm⟩
    rw [Char.isDigit, Bool.and_eq_true, decide_eq_true_eq, decide_eq_true_eq]
    exact bounds
  next => cases read

/-- What is read are digits, and it is the number that they stand for. -/
theorem parseDigits_eq_ok {digits : List Char} {value n : Nat} (bound : value < UInt32.size)
    (read : parseDigits value digits = .ok n) :
    (∀ c ∈ digits, c.isDigit = true) ∧ Nat.ofDigitChars 10 digits value = n ∧
      n < UInt32.size := by
  induction digits generalizing value with
  | nil =>
    cases read
    exact ⟨nofun, rfl, bound⟩
  | cons c rest ih =>
    rw [parseDigits] at read
    cases first : digitValue? c with
    | none =>
      rw [first] at read
      cases read
    | some d =>
      rw [first] at read
      dsimp only at read
      split at read
      -- a digit is only taken while the number fits in a word
      next within =>
        obtain ⟨others, value, small⟩ := ih within read
        obtain ⟨digit, rfl⟩ := isDigit_of_digitValue? first
        refine ⟨List.forall_mem_cons.mpr ⟨digit, others⟩, ?_, small⟩
        rw [Nat.ofDigitChars_cons, Nat.mul_comm 10]
        exact value
      next => cases read

theorem toNat_of_isDigit {c : Char} (digit : c.isDigit = true) :
    '0'.toNat ≤ c.toNat ∧ c.toNat ≤ '9'.toNat := by
  rw [Char.isDigit, Bool.and_eq_true, decide_eq_true_eq, decide_eq_true_eq] at digit
  exact ⟨UInt32.le_iff_toNat_le.mp digit.1, UInt32.le_iff_toNat_le.mp digit.2⟩

theorem toDigits_of_isDigit {c : Char} (digit : c.isDigit = true) :
    Nat.toDigits 10 (c.toNat - '0'.toNat) = [c] := by
  obtain ⟨above, below⟩ := toNat_of_isDigit digit
  have zero : '0'.toNat = 48 := rfl
  have nine : '9'.toNat = 57 := rfl
  have small : c.toNat - '0'.toNat < 10 := by omega
  have same : Nat.digitChar (c.toNat - '0'.toNat) = c := by
    rw [← Char.toNat_inj, Nat.toNat_digitChar_of_lt_ten small]
    omega
  rw [Nat.toDigits_of_lt_base small, same]

/-- Digits behind a numeral make a longer one. -/
theorem toDigits_append {digits : List Char} {value : Nat} (positive : 0 < value)
    (all : ∀ c ∈ digits, c.isDigit = true) :
    Nat.toDigits 10 value ++ digits = Nat.toDigits 10 (Nat.ofDigitChars 10 digits value) := by
  induction digits generalizing value with
  | nil => rw [List.append_nil, Nat.ofDigitChars_nil]
  | cons c rest ih =>
    obtain ⟨first, others⟩ := List.forall_mem_cons.mp all
    obtain ⟨above, below⟩ := toNat_of_isDigit first
    have small : c.toNat - '0'.toNat < 10 := by
      have nine : '9'.toNat = '0'.toNat + 9 := rfl
      omega
    -- the first digit moves into the numeral, and the rest follows it
    have step := Nat.toDigits_append_toDigits (by decide) positive small
    rw [toDigits_of_isDigit first] at step
    rw [Nat.ofDigitChars_cons, ← ih (by omega) others, ← step, List.append_assoc,
      List.singleton_append]

/-- Digits are the numeral of the number that they stand for, behind zeros. -/
theorem exists_zeros {digits : List Char} (some : digits ≠ [])
    (all : ∀ c ∈ digits, c.isDigit = true) :
    ∃ zeros, digits =
      List.replicate zeros '0' ++ Nat.toDigits 10 (Nat.ofDigitChars 10 digits 0) := by
  induction digits with
  | nil => exact absurd rfl some
  | cons c rest ih =>
    obtain ⟨first, others⟩ := List.forall_mem_cons.mp all
    rw [Nat.ofDigitChars_cons]
    -- a leading zero is padding, unless it is the only digit
    by_cases zero : c = '0'
    · subst zero
      cases rest with
      | nil => exact ⟨0, rfl⟩
      | cons next rest =>
        obtain ⟨zeros, behind⟩ := ih (List.cons_ne_nil next rest) others
        exact ⟨zeros + 1, congrArg ('0' :: ·) behind⟩
    · have positive : 0 < c.toNat - '0'.toNat := by
        have above := (toNat_of_isDigit first).1
        have different : c.toNat ≠ '0'.toNat := fun same => zero (Char.toNat_inj.mp same)
        omega
      refine ⟨0, ?_⟩
      rw [Nat.mul_zero, Nat.zero_add, ← toDigits_append positive others, toDigits_of_isDigit first]
      rfl

/-! ## Padded numerals -/

def numeral (zeros : Nat) (slot : SlotId) : List Char :=
  List.replicate zeros '0' ++ Nat.toDigits 10 slot.toNat

theorem isDigit_of_mem_numeral (zeros : Nat) (slot : SlotId) :
    ∀ c ∈ numeral zeros slot, c.isDigit = true := by
  intro c present
  cases List.mem_append.mp present with
  | inl zero => rw [List.eq_of_mem_replicate zero]; rfl
  | inr digit => exact Nat.isDigit_of_mem_toDigits (by decide) (by decide) digit

theorem numeral_ne_nil (zeros : Nat) (slot : SlotId) : numeral zeros slot ≠ [] :=
  fun none => Nat.toDigits_ne_nil (List.append_eq_nil_iff.mp none).2

theorem parseDigits_numeral (zeros : Nat) (slot : SlotId) :
    (parseDigits 0 (numeral zeros slot)).map ofNat = .ok slot := by
  have value : Nat.ofDigitChars 10 (numeral zeros slot) 0 = slot.toNat := by
    rw [numeral, Nat.ofDigitChars_append, Nat.ofDigitChars_replicate_zero, Nat.mul_zero,
      Nat.ofDigitChars_ten_toDigits]
  have bound : slot.toNat < UInt32.size := slot.number.toNat_lt
  rw [parseDigits_of_isDigit (isDigit_of_mem_numeral zeros slot) (value.symm ▸ bound), value]
  exact congrArg Except.ok (ofNat_toNat slot)

theorem exists_numeral {digits : List Char} {slot : SlotId} (some : digits ≠ [])
    (read : (parseDigits 0 digits).map ofNat = .ok slot) : ∃ zeros, digits = numeral zeros slot := by
  cases value : parseDigits 0 digits with
  | error fault =>
    rw [value] at read
    cases read
  | ok n =>
    obtain ⟨all, rfl, bound⟩ := parseDigits_eq_ok (by decide) value
    rw [value] at read
    cases read
    obtain ⟨zeros, spelled⟩ := exists_zeros some all
    exact ⟨zeros, by rw [numeral, toNat_ofNat bound]; exact spelled⟩

/-- What may stand in front of the numeral of a slot. -/
inductive Padding : List Char → Prop where
  | zeros (count : Nat) : Padding (List.replicate count '0')
  | plus (count : Nat) : Padding ('+' :: List.replicate count '0')

/-- A slot is read from its numeral in plain decimal, and from that behind padding. -/
theorem parse_eq_ok_iff {text : String} {slot : SlotId} :
    parse text = .ok slot ↔
      ∃ padding, Padding padding ∧ text.toList = padding ++ slot.toText.toList := by
  rw [toText, String.toList_ofList]
  constructor
  · intro read
    rw [parse] at read
    split at read
    next => cases read
    next => cases read
    next => cases read
    -- what is left are a plus sign in front of digits, and digits alone
    next digits some letters =>
      obtain ⟨zeros, rfl⟩ := exists_numeral some read
      exact ⟨_, .plus zeros, letters⟩
    next some _ _ _ =>
      obtain ⟨zeros, letters⟩ := exists_numeral some read
      exact ⟨_, .zeros zeros, letters⟩
  · rintro ⟨_, ⟨zeros⟩ | ⟨zeros⟩, letters⟩
    · change text.toList = numeral zeros slot at letters
      rw [← parseDigits_numeral zeros slot, ← String.ofList_toList (s := text), letters]
      -- the numeral does not begin with a plus sign, so it is read as it stands
      cases written : numeral zeros slot with
      | nil => exact absurd written (numeral_ne_nil zeros slot)
      | cons c rest =>
        refine parse_of_isDigit (isDigit_of_mem_numeral zeros slot c ?_)
        rw [written]
        exact List.mem_cons_self
    · change text.toList = '+' :: numeral zeros slot at letters
      rw [← parseDigits_numeral zeros slot, parse, letters]
      cases written : numeral zeros slot with
      | nil => exact absurd written (numeral_ne_nil zeros slot)
      | cons c rest => rfl

/-! ## File names -/

theorem fileName_eq (slot : SlotId) : slot.fileName = s!"{slot.toNat}.bin" := by
  change slot.toText ++ ".bin" = toString slot.toNat ++ ".bin"
  rw [toText, Nat.toString_eq_ofList_toDigits]

/-- A slot is listed by the name of its own file, and by that behind padding. -/
theorem ofFileName?_eq_some_iff {name : String} {slot : SlotId} :
    ofFileName? name = some slot ↔
      ∃ padding, Padding padding ∧ name.toList = padding ++ slot.fileName.toList := by
  rw [toList_fileName]
  constructor
  · intro listed
    rw [ofFileName?] at listed
    split at listed
    -- the ending is taken off a reversed name
    next stem letters =>
      have read : parse (String.ofList stem.reverse) = .ok slot := by
        rw [parse?] at listed
        cases parsed : parse (String.ofList stem.reverse) with
        | error fault =>
          rw [parsed] at listed
          cases listed
        | ok other =>
          rw [parsed] at listed
          cases listed
          rfl
      obtain ⟨padding, padded, spelled⟩ := parse_eq_ok_iff.mp read
      rw [String.toList_ofList] at spelled
      refine ⟨padding, padded, ?_⟩
      rw [← List.append_assoc, ← spelled, ← List.reverse_reverse name.toList, letters]
      simp only [List.reverse_cons, List.append_assoc, List.cons_append, List.nil_append]
    next => cases listed
  · rintro ⟨padding, padded, spelled⟩
    have read : parse (String.ofList (padding ++ slot.toText.toList)) = .ok slot :=
      parse_eq_ok_iff.mpr ⟨padding, padded, String.toList_ofList⟩
    rw [ofFileName?, spelled, ← List.append_assoc, List.reverse_append]
    change parse? (String.ofList (padding ++ slot.toText.toList).reverse.reverse) = _
    rw [List.reverse_reverse, parse?, read]
    rfl

end SlotId

/-! ## Names in a directory -/

theorem Directory.mem_names_iff {d : Directory} {name : String} :
    name ∈ d.names ↔ ∃ entry, d.find? name = some entry := by
  constructor
  · intro present
    obtain ⟨pair, member, rfl⟩ := List.mem_map.mp present
    rw [find?]
    cases first : d.entries.find? (·.1 == pair.1) with
    | none => exact absurd (List.find?_eq_none.mp first pair member) (by simp)
    | some other => exact ⟨other.2, rfl⟩
  · rintro ⟨entry, found⟩
    exact mem_names_of_find? found

namespace Store

variable {s : Store} {d : Directory} {slot : SlotId}

theorem isTaken_iff_mem_names (present : s.directory = some d) :
    s.isTaken slot = true ↔ s!"{slot.toNat}.bin" ∈ d.names := by
  rw [isTaken_iff, Directory.mem_names_iff, ← SlotId.fileName_eq, Store.entry?, present,
    Option.bind_some]

/-- The slots that are listed are those for enrollment, those with a file, and those with a padded
name in the directory. -/
theorem mem_slots_iff_names {slots : List SlotId} (present : s.directory = some d)
    (listed : s.slots = .ok slots) :
    slot ∈ slots ↔ (1 ≤ slot.toNat ∧ slot.toNat ≤ s.capacity.toNat) ∨
      s!"{slot.toNat}.bin" ∈ d.names ∨
      ∃ padding, SlotId.Padding padding ∧ String.ofList padding ++ s!"{slot.toNat}.bin" ∈ d.names := by
  rw [mem_slots_iff present listed, mem_numbered, ← SlotId.fileName_eq]
  constructor
  · rintro (⟨name, inside, names⟩ | numbered)
    · obtain ⟨padding, padded, spelled⟩ := SlotId.ofFileName?_eq_some_iff.mp names
      have same : name = String.ofList padding ++ slot.fileName := by
        rw [← String.toList_inj, String.toList_append, String.toList_ofList, spelled]
      exact .inr (.inr ⟨padding, padded, same ▸ inside⟩)
    · exact .inl numbered
  · rintro (numbered | own | ⟨padding, padded, inside⟩)
    · exact .inr numbered
    · exact .inl ⟨_, own, SlotId.ofFileName?_fileName slot⟩
    · refine .inl ⟨_, inside, SlotId.ofFileName?_eq_some_iff.mpr ⟨padding, padded, ?_⟩⟩
      rw [String.toList_append, String.toList_ofList]

end Store

end DriverMonitor
