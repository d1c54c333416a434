import DriverMonitor.Recording.Replay

/-! # A recording, line by line

`IsLines` says what the lines of a file are by how the file is put together from them: each line is
ended by a line feed, with or without a carriage return before it, and only what is left at the end of
the file may stand for itself. Every file has lines in exactly one way, the one in which it is split.

`outcomes` lists what all the lines give. One call of a recording takes the first of these and leaves
the others, so the calls together give each line once.
-/

namespace DriverMonitor

/-! ## Lines of a file -/

inductive IsLines : List UInt8 → List (List UInt8) → Prop where
  | nil : IsLines [] []
  /-- The end of the file also ends a line. -/
  | last {line : List UInt8} (nonempty : line ≠ []) (feedless : 0x0a ∉ line) : IsLines line [line]
  | feed {line rest : List UInt8} {lines : List (List UInt8)} (feedless : 0x0a ∉ line)
      (returnless : line.getLast? ≠ some 0x0d) (others : IsLines rest lines) :
      IsLines (line ++ 0x0a :: rest) (line :: lines)
  | returnFeed {line rest : List UInt8} {lines : List (List UInt8)} (feedless : 0x0a ∉ line)
      (others : IsLines rest lines) : IsLines (line ++ 0x0d :: 0x0a :: rest) (line :: lines)

section Splitting

variable {b : UInt8} {line rest bytes : List UInt8} {lines : List (List UInt8)}

theorem splitLines_feed (rest : List UInt8) : splitLines (0x0a :: rest) = [] :: splitLines rest := rfl

theorem splitLines_returnFeed (rest : List UInt8) :
    splitLines (0x0d :: 0x0a :: rest) = [] :: splitLines rest := rfl

/-- A byte that ends no line belongs to the first one. -/
theorem splitLines_cons (notFeed : b ≠ 0x0a) (inside : b = 0x0d → rest.head? ≠ some 0x0a)
    (split : splitLines rest = line :: lines) : splitLines (b :: rest) = (b :: line) :: lines := by
  have notReturn : ¬ (b = 0x0d ∧ rest.head? = some 0x0a) := fun both => inside both.1 both.2
  rw [splitLines, if_neg notFeed, if_neg notReturn, split]

theorem splitLines_of_feedless (nonempty : line ≠ []) (feedless : 0x0a ∉ line) :
    splitLines line = [line] := by
  induction line with
  | nil => exact absurd rfl nonempty
  | cons b rest ih =>
    rw [List.mem_cons, not_or] at feedless
    cases rest with
    | nil => simp [splitLines, Ne.symm feedless.1]
    | cons c rest =>
      refine splitLines_cons (Ne.symm feedless.1) ?_ (ih nofun feedless.2)
      intro _ next
      cases next
      exact feedless.2 List.mem_cons_self

theorem splitLines_append_feed (feedless : 0x0a ∉ line) (returnless : line.getLast? ≠ some 0x0d)
    (rest : List UInt8) : splitLines (line ++ 0x0a :: rest) = line :: splitLines rest := by
  induction line with
  | nil => exact splitLines_feed rest
  | cons b line ih =>
    rw [List.mem_cons, not_or] at feedless
    cases line with
    | nil =>
      refine splitLines_cons (Ne.symm feedless.1) ?_ (splitLines_feed rest)
      rintro rfl
      exact absurd rfl returnless
    | cons c line =>
      refine splitLines_cons (Ne.symm feedless.1) ?_ (ih feedless.2 returnless)
      intro _ next
      cases next
      exact feedless.2 List.mem_cons_self

theorem splitLines_append_returnFeed (feedless : 0x0a ∉ line) (rest : List UInt8) :
    splitLines (line ++ 0x0d :: 0x0a :: rest) = line :: splitLines rest := by
  induction line with
  | nil => exact splitLines_returnFeed rest
  | cons b line ih =>
    rw [List.mem_cons, not_or] at feedless
    refine splitLines_cons (Ne.symm feedless.1) ?_ (ih feedless.2)
    intro _ next
    cases line with
    | nil => cases next
    | cons c line =>
      cases next
      exact feedless.2 List.mem_cons_self

/-- Bytes are split into lines in one way only. -/
theorem IsLines.eq_splitLines (isLines : IsLines bytes lines) : lines = splitLines bytes := by
  induction isLines with
  | nil => rfl
  | last nonempty feedless => exact (splitLines_of_feedless nonempty feedless).symm
  | feed feedless returnless others ih => rw [splitLines_append_feed feedless returnless, ih]
  | returnFeed feedless others ih => rw [splitLines_append_returnFeed feedless, ih]

theorem IsLines.cons (isLines : IsLines rest (line :: lines)) (notFeed : b ≠ 0x0a)
    (inside : b = 0x0d → rest.head? ≠ some 0x0a) : IsLines (b :: rest) ((b :: line) :: lines) := by
  have feedless {line : List UInt8} (others : 0x0a ∉ line) : 0x0a ∉ b :: line := by
    rw [List.mem_cons, not_or]
    exact ⟨notFeed.symm, others⟩
  cases isLines with
  | last nonempty others => exact .last nofun (feedless others)
  | feed others returnless rest =>
    refine .feed (feedless others) ?_ rest
    cases line with
    | nil =>
      intro isReturn
      cases isReturn
      exact inside rfl rfl
    | cons c line => exact returnless
  | returnFeed others rest => exact .returnFeed (feedless others) rest

/-- A carriage return before the line feed that ends an empty line belongs to the end of that line. -/
theorem IsLines.return_cons (isLines : IsLines (0x0a :: rest) lines) :
    IsLines (0x0d :: 0x0a :: rest) lines := by
  generalize whole : 0x0a :: rest = bytes at isLines
  -- the first line is the empty one, as it begins with a line feed
  cases isLines with
  | nil => cases whole
  | last nonempty feedless =>
    cases whole
    exact absurd List.mem_cons_self feedless
  | @feed line others lines feedless returnless isOthers =>
    cases line with
    | nil =>
      cases whole
      exact .returnFeed feedless isOthers
    | cons c line =>
      cases whole
      exact absurd List.mem_cons_self feedless
  | @returnFeed line others lines feedless isOthers =>
    cases line with
    | nil => cases whole
    | cons c line =>
      cases whole
      exact absurd List.mem_cons_self feedless

theorem isLines_splitLines (bytes : List UInt8) : IsLines bytes (splitLines bytes) := by
  fun_induction splitLines bytes with
  | case1 => exact .nil
  | case2 rest ih => exact .feed List.not_mem_nil nofun ih
  | case3 b rest notFeed ends ih =>
    obtain ⟨rfl, next⟩ := ends
    obtain ⟨rest, rfl⟩ := List.head?_eq_some_iff.mp next
    exact ih.return_cons
  | case4 b rest notFeed inside split ih =>
    rw [split] at ih
    cases ih
    exact .last nofun (by simp [Ne.symm notFeed])
  | case5 b rest notFeed inside line lines split ih =>
    rw [split] at ih
    exact ih.cons notFeed fun isReturn next => inside ⟨isReturn, next⟩

end Splitting

namespace Recording

variable {line : List UInt8} {number : Nat}

/-! ## What lines give -/

def isText (line : List UInt8) : Bool := (Text.ofUtf8? line).isSome

/-- Whether a line gives anything. Only a blank text does not. -/
def givesAnswer (line : List UInt8) : Bool := !(Text.ofUtf8? line).any Text.isBlank

def outcome (line : List UInt8) (number : Nat) : Except Failure (Extraction Float) :=
  match Text.ofUtf8? line with
  | none => .error .io
  | some text => readLine text number

/-- What lines give that come after `count` lines of text. -/
def lineOutcomes : List (List UInt8) → Nat → List (Except Failure (Extraction Float))
  | [], _ => []
  | line :: rest, count =>
    (if givesAnswer line then [outcome line (count + 1)] else []) ++
      lineOutcomes rest (count + (isText line).toNat)

def outcomes (r : Recording) : List (Except Failure (Extraction Float)) := lineOutcomes r.lines r.count

theorem extraction_ne_endOfStream (frame : RecordedFrame Float) :
    frame.extraction ≠ .ok .endOfStream := by
  rcases frame with ⟨_ | face, _ | mesh⟩
  · exact nofun
  · show (Mesh.face mesh.toArray).map Extraction.face ≠ .ok .endOfStream
    cases Mesh.face mesh.toArray <;> exact nofun
  · exact nofun
  · exact nofun

theorem outcome_ne_endOfStream (line : List UInt8) (number : Nat) :
    outcome line number ≠ .ok .endOfStream := by
  unfold outcome readLine
  split
  · exact nofun
  · split
    · exact extraction_ne_endOfStream _
    · exact nofun

/-- The number of a line only shows in the message that the line cannot be read. -/
theorem outcome_number (line : List UInt8) :
    (∀ a b, outcome line a = outcome line b) ∨
      ∀ number, outcome line number = .error (.extraction (.unreadableLine number)) := by
  cases read : Text.ofUtf8? line with
  | none => exact .inl fun a b => by simp only [outcome, read]
  | some text =>
    cases parsed : RecordedFrame.parse? text with
    | none => exact .inr fun number => by simp only [outcome, readLine, read, parsed]
    | some frame => exact .inl fun a b => by simp only [outcome, readLine, read, parsed]

/-- Lines behind others are numbered on from these. -/
theorem lineOutcomes_append (earlier later : List (List UInt8)) (count : Nat) :
    lineOutcomes (earlier ++ later) count =
      lineOutcomes earlier count ++ lineOutcomes later (count + earlier.countP isText) := by
  induction earlier generalizing count with
  | nil => rfl
  | cons line earlier ih =>
    have counted : count + (isText line).toNat + earlier.countP isText =
        count + (line :: earlier).countP isText := by
      cases text : isText line with
      | false => simp [text]
      | true =>
        simp [text]
        omega
    rw [List.cons_append, lineOutcomes, lineOutcomes, ih, counted, List.append_assoc]

theorem length_lineOutcomes (lines : List (List UInt8)) (count : Nat) :
    (lineOutcomes lines count).length = lines.countP givesAnswer := by
  induction lines generalizing count with
  | nil => rfl
  | cons line lines ih =>
    rw [lineOutcomes, List.length_append, ih]
    cases answers : givesAnswer line with
    | false => simp [answers]
    | true =>
      simp [answers]
      omega

theorem ne_endOfStream_of_mem_lineOutcomes {lines : List (List UInt8)} {count : Nat}
    {answer : Except Failure (Extraction Float)} (present : answer ∈ lineOutcomes lines count) :
    answer ≠ .ok .endOfStream := by
  induction lines generalizing count with
  | nil => cases present
  | cons line lines ih =>
    rw [lineOutcomes, List.mem_append] at present
    obtain first | later := present
    · split at first
      · rw [List.mem_singleton.mp first]
        exact outcome_ne_endOfStream _ _
      · cases first
    · exact ih later

theorem ne_endOfStream_of_mem_outcomes {r : Recording} {answer : Except Failure (Extraction Float)}
    (present : answer ∈ r.outcomes) : answer ≠ .ok .endOfStream :=
  ne_endOfStream_of_mem_lineOutcomes present

/-! ## What calls give -/

/-- A call gives the first outcome and leaves the others. -/
theorem nextFrom_spec (lines : List (List UInt8)) (count : Nat) :
    (nextFrom lines count).1 = (lineOutcomes lines count).headD (.ok .endOfStream) ∧
      (nextFrom lines count).2.outcomes = (lineOutcomes lines count).tail := by
  fun_induction nextFrom lines count with
  | case1 count => exact ⟨rfl, rfl⟩
  | case2 line rest count read =>
    simp [lineOutcomes, givesAnswer, isText, outcome, outcomes, read]
  | case3 line rest count text read blank ih =>
    simpa [lineOutcomes, givesAnswer, isText, read, blank] using ih
  | case4 line rest count text read notBlank =>
    simp [lineOutcomes, givesAnswer, isText, outcome, outcomes, read, notBlank]

theorem next_of_outcomes_nil {r : Recording} (none : r.outcomes = []) :
    r.next.1 = .ok .endOfStream ∧ r.next.2.outcomes = [] := by
  have spec := nextFrom_spec r.lines r.count
  rw [← outcomes, none] at spec
  exact spec

theorem next_of_outcomes_cons {r : Recording} {answer : Except Failure (Extraction Float)}
    {others : List (Except Failure (Extraction Float))} (first : r.outcomes = answer :: others) :
    r.next.1 = answer ∧ r.next.2.outcomes = others := by
  have spec := nextFrom_spec r.lines r.count
  rw [← outcomes, first] at spec
  exact spec

def answer (r : Recording) : Nat → Except Failure (Extraction Float)
  | 0 => r.next.1
  | n + 1 => r.next.2.answer n

theorem answer_eq (r : Recording) (n : Nat) :
    r.answer n = r.outcomes[n]?.getD (.ok .endOfStream) := by
  induction n generalizing r with
  | zero =>
    cases rest : r.outcomes with
    | nil => exact (next_of_outcomes_nil rest).1
    | cons first others => exact (next_of_outcomes_cons rest).1
  | succ n ih =>
    rw [answer, ih]
    cases rest : r.outcomes with
    | nil => rw [(next_of_outcomes_nil rest).2, List.getElem?_nil, List.getElem?_nil]
    | cons first others => rw [(next_of_outcomes_cons rest).2, List.getElem?_cons_succ]

/-- Which call a line answers depends on the lines before it that give answers; which number it has, on
those that are texts. -/
theorem answer_of_line {bytes : List UInt8} {earlier later : List (List UInt8)}
    (split : splitLines bytes = earlier ++ line :: later) (answers : givesAnswer line = true) :
    (ofBytes bytes).answer (earlier.countP givesAnswer) =
      outcome line (earlier.countP isText + 1) := by
  have whole : (ofBytes bytes).outcomes = lineOutcomes (earlier ++ line :: later) 0 := by
    rw [← split]
    rfl
  have before := length_lineOutcomes earlier 0
  rw [answer_eq, whole, lineOutcomes_append, ← before, List.getElem?_append_right (Nat.le_refl _),
    lineOutcomes, if_pos answers, Nat.sub_self, Nat.zero_add]
  rfl

/-- Behind the last line the stream has ended and stays so. -/
theorem answer_after_lines {bytes : List UInt8} {n : Nat}
    (beyond : (splitLines bytes).countP givesAnswer ≤ n) :
    (ofBytes bytes).answer n = .ok .endOfStream := by
  have length : (ofBytes bytes).outcomes.length = (splitLines bytes).countP givesAnswer :=
    length_lineOutcomes _ _
  rw [answer_eq, List.getElem?_eq_none (by omega)]
  rfl

end Recording

end DriverMonitor
