import DriverMonitor.Proofs.Store.Listing

/-! # Slots and the names of their files

Many names list one slot, but the name of a slot's own file lists that slot: reading undoes printing.
So no two slots share a file, and a slot with a file is always listed.
-/

namespace DriverMonitor

namespace SlotId

/-! ## Numerals -/

theorem digitValue?_of_isDigit {c : Char} (digit : c.isDigit = true) :
    digitValue? c = some (c.toNat - '0'.toNat) := by
  rw [Char.isDigit, Bool.and_eq_true, decide_eq_true_eq, decide_eq_true_eq] at digit
  have bounds : '0' ≤ c ∧ c ≤ '9' := digit
  rw [digitValue?, if_pos bounds]

theorem le_ofDigitChars (digits : List Char) (value : Nat) :
    value ≤ Nat.ofDigitChars 10 digits value := by
  induction digits generalizing value with
  | nil => exact Nat.le_refl value
  | cons c rest ih =>
    have later := ih (10 * value + (c.toNat - '0'.toNat))
    rw [Nat.ofDigitChars_cons]
    omega

theorem parseDigits_of_isDigit {digits : List Char} {value : Nat}
    (all : ∀ c ∈ digits, c.isDigit = true)
    (bound : Nat.ofDigitChars 10 digits value < UInt32.size) :
    parseDigits value digits = .ok (Nat.ofDigitChars 10 digits value) := by
  induction digits generalizing value with
  | nil => rfl
  | cons c rest ih =>
    obtain ⟨first, others⟩ := List.forall_mem_cons.mp all
    rw [Nat.ofDigitChars_cons] at bound ⊢
    -- the value only grows, so no digit before the last one makes it too large
    have within := Nat.lt_of_le_of_lt (le_ofDigitChars rest _) bound
    rw [parseDigits, digitValue?_of_isDigit first, Nat.mul_comm value]
    simp only [within, if_true]
    exact ih others bound

theorem parse_of_isDigit {c : Char} {rest : List Char} (first : c.isDigit = true) :
    parse (String.ofList (c :: rest)) = (parseDigits 0 (c :: rest)).map ofNat := by
  have noPlus : c ≠ '+' := by
    rintro rfl
    cases first
  have noMinus : c ≠ '-' := by
    rintro rfl
    cases first
  rw [parse, String.toList_ofList]
  simp [noPlus, noMinus]

/-- A slot is read from its plain numeral. -/
theorem parse_toText (slot : SlotId) : parse slot.toText = .ok slot := by
  have digits : ∀ c ∈ Nat.toDigits 10 slot.toNat, c.isDigit = true := fun c present =>
    Nat.isDigit_of_mem_toDigits (by decide) (by decide) present
  have value : Nat.ofDigitChars 10 (Nat.toDigits 10 slot.toNat) 0 = slot.toNat :=
    Nat.ofDigitChars_ten_toDigits
  have bound : slot.toNat < UInt32.size := slot.number.toNat_lt
  have parsed := parseDigits_of_isDigit digits (value.symm ▸ bound)
  rw [value] at parsed
  rw [toText]
  cases written : Nat.toDigits 10 slot.toNat with
  | nil => exact absurd written Nat.toDigits_ne_nil
  | cons c rest =>
    rw [written] at digits parsed
    rw [parse_of_isDigit (digits c List.mem_cons_self), parsed]
    exact congrArg Except.ok (ofNat_toNat slot)

/-! ## File names -/

theorem toList_fileName (slot : SlotId) :
    slot.fileName.toList = slot.toText.toList ++ ['.', 'b', 'i', 'n'] :=
  String.toList_append

theorem ofFileName?_fileName (slot : SlotId) : ofFileName? slot.fileName = some slot := by
  rw [ofFileName?, toList_fileName, List.reverse_append]
  change parse? (String.ofList slot.toText.toList.reverse.reverse) = _
  rw [List.reverse_reverse, String.ofList_toList, parse?, parse_toText]
  rfl

/-- Different slots have different files. -/
theorem fileName_inj {a b : SlotId} : a.fileName = b.fileName ↔ a = b := by
  constructor
  · intro same
    have listed := congrArg ofFileName? same
    rw [ofFileName?_fileName, ofFileName?_fileName] at listed
    exact Option.some.inj listed
  · exact congrArg fileName

end SlotId

/-! ## Names in a directory -/

theorem Directory.mem_names_of_find? {d : Directory} {name : String} {entry : Entry}
    (found : d.find? name = some entry) : name ∈ d.names := by
  obtain ⟨pair, first, -⟩ := Option.map_eq_some_iff.mp found
  have named : pair.1 = name := by simpa using List.find?_some first
  exact List.mem_map.mpr ⟨pair, List.mem_of_find?_eq_some first, named⟩

namespace Store

variable {s : Store} {slot : SlotId}

theorem isTaken_iff : s.isTaken slot = true ↔ ∃ entry, s.entry? slot = some entry :=
  Option.isSome_iff_exists

theorem mem_slots_iff {slots : List SlotId} {d : Directory} (present : s.directory = some d)
    (listed : s.slots = .ok slots) :
    slot ∈ slots ↔ (∃ name ∈ d.names, SlotId.ofFileName? name = some slot) ∨ slot ∈ s.numbered := by
  rw [Store.slots, present] at listed
  split at listed
  next => cases listed
  next directory kept =>
    cases listed
    cases (Option.filter_eq_some_iff.mp kept).1
    rw [← List.mem_filterMap]
    generalize d.names.filterMap SlotId.ofFileName? = named
    induction named with
    | nil => simp
    | cons first named ih => rw [List.foldr_cons, mem_insertSlot, ih, List.mem_cons, or_assoc]

/-- Every slot in whose place a file stands is listed, under the name of that file. -/
theorem mem_slots_of_isTaken {slots : List SlotId} (listed : s.slots = .ok slots)
    (taken : s.isTaken slot = true) : slot ∈ slots := by
  obtain ⟨entry, found⟩ := isTaken_iff.mp taken
  obtain ⟨d, present, found⟩ := Option.bind_eq_some_iff.mp found
  refine (mem_slots_iff present listed).mpr (.inl ⟨slot.fileName, ?_, SlotId.ofFileName?_fileName slot⟩)
  exact Directory.mem_names_of_find? found

/-- The enrolled slots are those with a file, in increasing order. -/
theorem enrolled_spec {slots : List SlotId} (listed : s.enrolled = .ok slots) :
    SlotId.Increasing slots ∧ ∀ slot, slot ∈ slots ↔ s.isTaken slot = true := by
  rw [enrolled] at listed
  cases all : s.slots with
  | error reason =>
    rw [all] at listed
    cases listed
  | ok every =>
    rw [all] at listed
    cases listed
    refine ⟨(increasing_slots all).filter _, fun slot => ?_⟩
    rw [List.mem_filter]
    exact ⟨And.right, fun taken => ⟨mem_slots_of_isTaken all taken, taken⟩⟩

end Store

end DriverMonitor
