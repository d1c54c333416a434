import DriverMonitor.Proofs.Recording.Lines

/-! # The number in the message about a line

A line that cannot be read is reported under a number. That number counts the lines of text up to the
line itself, whatever these hold, but not the lines that are no text: a call that meets such a line
fails before it counts it. So `unreadable_line_number` finds the reported line in the file and says by
how much its number falls short.
-/

namespace DriverMonitor.Recording

variable {line : List UInt8} {lines : List (List UInt8)} {count n number : Nat}
variable {given : Except Failure (Extraction Float)}

/-- A text that is not blank and no frame either. -/
def IsUnreadable (line : List UInt8) : Prop :=
  ∃ text, Text.ofUtf8? line = some text ∧ Text.isBlank text = false ∧
    RecordedFrame.parse? text = none

/-- Each outcome is that of one line, the one in front of which as many lines give anything as there are
outcomes before it. -/
theorem exists_line_of_outcome (atIndex : (lineOutcomes lines count)[n]? = some given) :
    ∃ earlier line later, lines = earlier ++ line :: later ∧ givesAnswer line = true ∧
      n = earlier.countP givesAnswer ∧ given = outcome line (count + earlier.countP isText + 1) := by
  induction lines generalizing count n with
  | nil => simp [lineOutcomes] at atIndex
  | cons first rest ih =>
    -- a later outcome is found in the rest, with one more line in front of it
    have extend {m : Nat}
        (further : (lineOutcomes rest (count + (isText first).toNat))[m]? = some given)
        (index : n = m + (givesAnswer first).toNat) :
        ∃ earlier line later, first :: rest = earlier ++ line :: later ∧ givesAnswer line = true ∧
          n = earlier.countP givesAnswer ∧
          given = outcome line (count + earlier.countP isText + 1) := by
      obtain ⟨earlier, line, later, rfl, answers, rfl, rfl⟩ := ih further
      refine ⟨first :: earlier, line, later, rfl, answers, ?_, ?_⟩
      · rw [index, List.countP_cons]
        cases givesAnswer first <;> rfl
      · rw [List.countP_cons]
        cases isText first
        · rfl
        · simp only [Bool.toNat_true, if_true]
          congr 1
          omega
    cases answers : givesAnswer first with
    | false => exact extend (by simpa [lineOutcomes, answers] using atIndex) (by simp [answers])
    | true =>
      simp [lineOutcomes, answers] at atIndex
      cases n with
      | zero => exact ⟨[], first, rest, rfl, answers, rfl, by simpa using atIndex.symm⟩
      | succ m => exact extend (by simpa using atIndex) (by simp [answers])

theorem elim_eq_error {α : Type} {found : Option α} {fault failure : Failure}
    (missing : found.elim (Except.error fault) Except.ok = .error failure) : failure = fault := by
  cases found with
  | none => exact (Except.error.inj missing).symm
  | some _ => cases missing

/-- Whatever is wrong with a mesh, it is reported by its size. -/
theorem face_error_eq {mesh : Array (Point3 Float)} {failure : Failure}
    (failed : Mesh.face mesh = .error failure) : failure = .extraction (.shortMesh mesh.size) := by
  rw [Mesh.face] at failed
  cases picked : Mesh.pick mesh Mesh.landmarkIndices with
  | error reason =>
    rw [picked] at failed
    change Except.error reason = Except.error failure at failed
    cases Except.error.inj failed
    rw [Mesh.pick] at picked
    split at picked
    · exact (Except.error.inj picked).symm
    · exact elim_eq_error picked
  | ok points =>
    rw [picked] at failed
    exact elim_eq_error failed

theorem extraction_ne_unreadableLine (frame : RecordedFrame Float) (number : Nat) :
    frame.extraction ≠ .error (.extraction (.unreadableLine number)) := by
  rcases frame with ⟨_ | face, _ | mesh⟩
  · exact nofun
  · show (Mesh.face mesh.toArray).map Extraction.face ≠ _
    cases result : Mesh.face mesh.toArray with
    | error failure =>
      rw [face_error_eq result]
      exact nofun
    | ok face => exact nofun
  · exact nofun
  · exact nofun

/-- Only a line that cannot be read is reported by its number, and the number is the one it is given. -/
theorem outcome_eq_unreadableLine_iff (answers : givesAnswer line = true) :
    outcome line count = .error (.extraction (.unreadableLine number)) ↔
      IsUnreadable line ∧ number = count := by
  cases read : Text.ofUtf8? line with
  | none => simp [outcome, IsUnreadable, read]
  | some text =>
    have notBlank : Text.isBlank text = false := by simpa [givesAnswer, read] using answers
    cases parsed : RecordedFrame.parse? text with
    | none =>
      simp [outcome, readLine, IsUnreadable, read, parsed, notBlank]
      exact eq_comm
    | some frame =>
      simp [outcome, readLine, IsUnreadable, read, parsed, extraction_ne_unreadableLine]

/-- Where a line is reported as unreadable, it is, and the number that it is reported under is its place
among all lines of the file, less the lines before it that are no text. So the number is the place of
the line exactly if all lines before it are texts. -/
theorem unreadable_line_number {bytes : List UInt8}
    (reported : (ofBytes bytes).answer n = .error (.extraction (.unreadableLine number))) :
    ∃ earlier line later, IsLines bytes (earlier ++ line :: later) ∧
      n = earlier.countP givesAnswer ∧ givesAnswer line = true ∧ IsUnreadable line ∧
      number + earlier.countP (fun other => !isText other) = earlier.length + 1 ∧
      (number = earlier.length + 1 ↔ ∀ other ∈ earlier, isText other = true) := by
  have atIndex : (ofBytes bytes).outcomes[n]? =
      some (.error (.extraction (.unreadableLine number))) := by
    rw [answer_eq] at reported
    cases found : (ofBytes bytes).outcomes[n]? with
    | none => simp [found] at reported
    | some given => simpa [found] using reported
  obtain ⟨earlier, line, later, split, answers, index, outcome⟩ := exists_line_of_outcome atIndex
  obtain ⟨unreadable, counted⟩ := (outcome_eq_unreadableLine_iff answers).mp outcome.symm
  -- the lines in front are texts, which are counted, or not
  have texts : earlier.length =
      earlier.countP isText + earlier.countP (fun other => !isText other) := by
    simpa using List.length_eq_countP_add_countP isText
  change number = 0 + earlier.countP isText + 1 at counted
  refine ⟨earlier, line, later, ?_, index, answers, unreadable, by omega, ?_⟩
  · rw [← split]
    exact isLines_splitLines bytes
  · rw [← List.countP_eq_length]
    omega

/-- The second line of a file is reported as the first, since the first one is no text. -/
theorem unreadable_line_number_behind_no_text :
    let r := ofBytes [0xff, 0x0a, 0x78, 0x0a]
    r.answer 1 = .error (.extraction (.unreadableLine 1)) ∧
      ∃ earlier line later, IsLines [0xff, 0x0a, 0x78, 0x0a] (earlier ++ line :: later) ∧
        1 = earlier.countP givesAnswer ∧ IsUnreadable line ∧ 1 < earlier.length + 1 := by
  intro r
  have split : splitLines [0xff, 0x0a, 0x78, 0x0a] = [[0xff]] ++ [0x78] :: [] := by decide
  have answers : givesAnswer [0x78] = true := by decide +kernel
  have unreadable : IsUnreadable [0x78] :=
    ⟨"x", by decide +kernel, by decide +kernel, Option.isNone_iff_eq_none.mp (by decide +kernel)⟩
  have counts : [[0xff]].countP givesAnswer = 1 ∧ [[0xff]].countP isText = 0 := by decide +kernel
  have reported : r.answer 1 = .error (.extraction (.unreadableLine 1)) := by
    have answer := answer_of_line split answers
    rw [counts.1, counts.2] at answer
    exact answer.trans ((outcome_eq_unreadableLine_iff answers).mpr ⟨unreadable, rfl⟩)
  obtain ⟨earlier, line, later, isLines, index, -, isUnreadable, -, -⟩ :=
    unreadable_line_number reported
  have before : earlier.countP givesAnswer ≤ earlier.length := List.countP_le_length
  exact ⟨reported, earlier, line, later, isLines, index, isUnreadable, by omega⟩

end DriverMonitor.Recording
