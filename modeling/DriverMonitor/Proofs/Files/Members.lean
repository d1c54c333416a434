import DriverMonitor.Files.Tree

/-! # Paths of names in a directory

The path of a file is put together as a text from the path of its directory and its name, and is read
again as a whole. Whether or not the path of the directory is empty or ends with a slash, it leads
through that directory to the name, unless the text has become too long: `Path.ofText_joinPath`. So
what can be seen and written under such a path is said by the directory alone.
-/

namespace DriverMonitor

/-- The path of the directory that a path is put in front of names for. -/
def directoryPath (path : String) : String := if path.isEmpty then "." else path

namespace Path

structure Plain (name : String) : Prop where
  slashless : '/' ∉ name.toList
  leads : isIdle name = false
  down : name ≠ ".."
  short : name.utf8ByteSize ≤ maxNameBytes

variable {text path name : String} {p : Path}

/-! ## Reading a path -/

structure Legible (text : String) : Prop where
  short : text.utf8ByteSize ≤ maxBytes
  zeroless : '\x00' ∉ text.toList

def pieces (text : String) : List String := (text.toList.splitOn '/').map String.ofList

theorem legible_iff :
    Legible text ↔ ¬ (maxBytes < text.utf8ByteSize ∨ text.any (· == '\x00') = true) := by
  simp only [String.any, String.contains_bool_eq, List.any_beq', List.contains_iff_mem, not_or,
    Nat.not_lt]
  exact ⟨fun legible => ⟨legible.short, legible.zeroless⟩, fun both => ⟨both.1, both.2⟩⟩

theorem ofText_of_legible (something : text ≠ "") (legible : Legible text) :
    ofText text = .ok ⟨text.startsWith "/", pieces text⟩ := by
  rw [ofText, if_neg (by simp [something]), if_neg (legible_iff.mp legible), pieces]

theorem ofText_of_not_legible (something : text ≠ "") (illegible : ¬ Legible text) :
    ofText text = .error .refused := by
  rw [legible_iff, Decidable.not_not] at illegible
  rw [ofText, if_neg (by simp [something]), if_pos illegible]

/-- The front of a text that is a path is one as well. -/
theorem Legible.of_append {front back : String} (legible : Legible (front ++ back)) :
    Legible front := by
  obtain ⟨short, zeroless⟩ := legible
  rw [String.utf8ByteSize_append] at short
  rw [String.toList_append, List.mem_append, not_or] at zeroless
  exact ⟨by omega, zeroless.1⟩

/-! ## Putting a name behind a path -/

theorem pieces_of_slashless (slashless : '/' ∉ name.toList) : pieces name = [name] := by
  simp [pieces, List.splitOn_eq_singleton slashless]

/-- A name behind the last slash is a piece of its own. -/
theorem pieces_append_slash (front : String) (slashless : '/' ∉ name.toList) :
    pieces (front ++ "/" ++ name) = pieces front ++ [name] := by
  have split : (front ++ "/" ++ name).toList = front.toList ++ '/' :: name.toList := by simp
  rw [pieces, split, List.splitOn_append_cons_self, List.splitOn_eq_singleton slashless, pieces]
  simp

theorem startsWith_append {front : String} (back : String) (something : front ≠ "") :
    (front ++ back).startsWith "/" = front.startsWith "/" := by
  rw [Bool.eq_iff_iff, String.startsWith_string_iff, String.startsWith_string_iff,
    String.toList_append]
  cases letters : front.toList with
  | nil => exact absurd (String.toList_eq_nil_iff.mp letters) something
  | cons first rest => simp

theorem exists_front_of_endsWith (ends : path.endsWith "/" = true) : ∃ front, path = front ++ "/" := by
  rw [String.endsWith_eq_endsWith_toSlice, String.Slice.endsWith_string_iff,
    String.copy_toSlice] at ends
  obtain ⟨front, whole⟩ := ends
  refine ⟨String.ofList front, String.toList_inj.mp ?_⟩
  simp [← whole]

/-- A text that leads to a directory, perhaps on to where it is already, and then to a name. -/
def Continues (directory text name : String) : Prop :=
  ∃ above : Path, ofText text = .ok { above with names := above.names ++ [name] } ∧
    (ofText directory = .ok above ∨ ∃ idle, isIdle idle = true ∧
      ofText directory = .ok { above with names := above.names ++ [idle] })

theorem Plain.ne_empty (plain : Plain name) : name ≠ "" := by
  rintro rfl
  exact absurd plain.leads (by decide)

theorem Plain.relative (plain : Plain name) : name.startsWith "/" = false := by
  rw [String.startsWith_string_eq_false_iff]
  intro starts
  exact plain.slashless (starts.subset (by simp))

theorem continues_name (plain : Plain name) (legible : Legible name) : Continues "." name name := by
  refine ⟨⟨false, []⟩, ?_, .inr ⟨".", by decide, ?_⟩⟩
  · rw [ofText_of_legible plain.ne_empty legible, plain.relative,
      pieces_of_slashless plain.slashless]
    rfl
  · have relative : ".".startsWith "/" = false := by simp
    rw [ofText_of_legible (by decide) ⟨by decide, by decide⟩, relative,
      pieces_of_slashless (by decide)]
    rfl

theorem continues_append {front : String} (plain : Plain name)
    (legible : Legible (front ++ "/" ++ name)) :
    Continues (front ++ "/") (front ++ "/" ++ name) name := by
  have something : front ++ "/" ≠ "" := by simp
  have last : pieces (front ++ "/" ++ "") = pieces front ++ [""] := pieces_append_slash front (by simp)
  rw [String.append_empty] at last
  refine ⟨⟨(front ++ "/").startsWith "/", pieces front⟩, ?_, .inr ⟨"", by decide, ?_⟩⟩
  · rw [ofText_of_legible (by simp) legible, startsWith_append _ something,
      pieces_append_slash front plain.slashless]
  · rw [ofText_of_legible something legible.of_append, last]

theorem continues_append_slash (plain : Plain name) (something : path ≠ "")
    (legible : Legible (path ++ "/" ++ name)) : Continues path (path ++ "/" ++ name) name := by
  refine ⟨⟨path.startsWith "/", pieces path⟩, ?_, .inl ?_⟩
  · rw [ofText_of_legible (by simp) legible, pieces_append_slash path plain.slashless,
      String.append_assoc, startsWith_append _ something]
  · exact ofText_of_legible something legible.of_append.of_append

/-- The path of a name in a directory leads there through the directory, if it is not too long. -/
theorem ofText_joinPath (plain : Plain name) (path : String) :
    ofText (joinPath path name) = .error .refused ∨
      Continues (directoryPath path) (joinPath path name) name := by
  have joined : joinPath path name ≠ "" := by
    rw [joinPath]
    split
    · exact plain.ne_empty
    · split <;> simp [plain.ne_empty]
  by_cases legible : Legible (joinPath path name)
  · right
    -- the three ways in which a name is joined to a path
    by_cases empty : path = ""
    · have itself : joinPath "" name = name := by simp [joinPath]
      rw [empty, itself] at legible ⊢
      exact continues_name plain legible
    · have itself : directoryPath path = path := by simp [directoryPath, empty]
      rw [itself]
      by_cases ends : path.endsWith "/" = true
      · obtain ⟨front, rfl⟩ := exists_front_of_endsWith ends
        rw [joinPath, if_neg (by simp [plain.relative]), if_pos ends] at legible ⊢
        exact continues_append plain legible
      · rw [joinPath, if_neg (by simp [plain.relative, empty]), if_neg ends] at legible ⊢
        exact continues_append_slash plain empty legible
  · exact .inl (ofText_of_not_legible joined legible)

end Path

namespace FileTree

variable {t after : FileTree} {trail : Trail} {path name : String}
variable {members : List (String × FileNode)}

/-! ## Following a path to a name -/

theorem step_of_file {bytes : List UInt8} (ends : t.nodeAt trail = .file bytes) (name : String) :
    t.step trail name = .error .refused := by
  rw [step, ends]

theorem step_of_isIdle (inside : t.nodeAt trail = .directory members)
    (idle : Path.isIdle name = true) : t.step trail name = .ok trail := by
  rw [step, inside]
  simp [idle]

/-- A plain name leads to what stands under it. -/
theorem step_of_plain (inside : t.nodeAt trail = .directory members) (plain : Path.Plain name) :
    t.step trail name =
      (members.lookup name).elim (.error .missing) fun node => .ok ((name, node) :: trail) := by
  have short : ¬ Path.maxNameBytes < name.utf8ByteSize := Nat.not_lt.mpr plain.short
  rw [step, inside]
  simp only [plain.leads, plain.down, short, if_false, Bool.false_eq_true]
  cases members.lookup name <;> rfl

/-- The last name of a path is followed last. -/
theorem follow_snoc (t : FileTree) (p : Path) (name : String) :
    t.follow { p with names := p.names ++ [name] } = (t.follow p >>= (t.step · name)) := by
  cases absolute : p.absolute <;> simp [follow, absolute, List.foldlM_append]

def opened (t : FileTree) (path : String) : Except PathFault Trail := do
  let trail ← t.find (directoryPath path)
  t.step trail "."

/-- The way to a directory is that to its path, if a directory is there. -/
theorem opened_eq_ok_iff :
    t.opened path = .ok trail ↔
      t.find (directoryPath path) = .ok trail ∧ ∃ members, t.nodeAt trail = .directory members := by
  rw [opened]
  cases t.find (directoryPath path) with
  | error fault => exact ⟨nofun, nofun⟩
  | ok found =>
    -- a dot stands still in a directory, and leads nowhere from a file
    change t.step found "." = _ ↔ _
    cases ends : t.nodeAt found with
    | file bytes =>
      rw [step_of_file ends]
      constructor
      · exact nofun
      · rintro ⟨⟨⟩, members, inside⟩
        rw [ends] at inside
        cases inside
    | directory members =>
      rw [step_of_isIdle ends (by decide), Except.ok.injEq]
      constructor
      · rintro rfl
        exact ⟨rfl, members, ends⟩
      · rintro ⟨⟨⟩, -⟩
        rfl

/-- Standing still on the way changes nothing about where it leads. -/
theorem step_step_of_isIdle {idle : String} (isIdle : Path.isIdle idle = true) (trail : Trail)
    (name : String) : (t.step trail idle >>= (t.step · name)) = t.step trail name := by
  cases ends : t.nodeAt trail with
  | file bytes =>
    rw [step_of_file ends, step_of_file ends]
    rfl
  | directory members =>
    rw [step_of_isIdle ends isIdle]
    rfl

/-- What a path that leads through a directory says to do after the directory is the same whether
it is followed as a whole or by way of the directory's own path. -/
theorem follow_of_continues (t : FileTree) {directory text : String}
    (through : Path.Continues directory text name) :
    ∃ above p, Path.ofText text = .ok p ∧ p.split? = some (above, name) ∧
      t.follow p = (t.follow above >>= (t.step · name)) ∧
      (t.find directory >>= (t.step · ".")) = (t.follow above >>= (t.step · ".")) := by
  obtain ⟨above, read, directly | ⟨idle, isIdle, directly⟩⟩ := through
  · refine ⟨above, _, read, by simp [Path.split?], t.follow_snoc above name, ?_⟩
    rw [find, directly]
    rfl
  · -- the directory's own path stands still once more at its end
    refine ⟨above, _, read, by simp [Path.split?], t.follow_snoc above name, ?_⟩
    rw [find, directly]
    change (t.follow { above with names := above.names ++ [idle] } >>= _) = _
    rw [follow_snoc, bind_assoc]
    simp only [step_step_of_isIdle isIdle]

/-! ## What stands under a name -/

theorem look_directoryPath_iff :
    t.look (directoryPath path) = .ok .directory ↔ ∃ trail, t.opened path = .ok trail := by
  rw [look]
  cases found : t.find (directoryPath path) with
  | error fault =>
    rw [opened, found]
    exact ⟨nofun, nofun⟩
  | ok trail =>
    change Except.ok (t.nodeAt trail).entry = _ ↔ _
    simp only [opened_eq_ok_iff, found, Except.ok.injEq, exists_eq_left']
    cases t.nodeAt trail with
    | file bytes => simp [FileNode.entry]
    | directory members => simp [FileNode.entry]

theorem names?_of_opened (opened : t.opened path = .ok trail)
    (inside : t.nodeAt trail = .directory members) :
    t.names? (directoryPath path) = some (members.map (·.1)) := by
  rw [FileTree.names?, (opened_eq_ok_iff.mp opened).1, Except.map, inside]

theorem names?_of_closed {fault : PathFault} (closed : t.opened path = .error fault) :
    t.names? (directoryPath path) = none := by
  rw [FileTree.names?]
  cases found : t.find (directoryPath path) with
  | error fault => rw [Except.map]
  | ok trail =>
    cases ends : t.nodeAt trail with
    | file bytes => rw [Except.map, ends]
    | directory members =>
      rw [opened_eq_ok_iff.mpr ⟨found, members, ends⟩] at closed
      cases closed

/-- A text that leads through a directory is looked up in it. -/
theorem look_of_continues {text : String}
    (through : Path.Continues (directoryPath path) text name) :
    t.look text = (do
      let trail ← t.opened path
      let found ← t.step trail name
      return (t.nodeAt found).entry) := by
  obtain ⟨above, p, read, -, followed, same⟩ := t.follow_of_continues through
  rw [look, find, read, opened, same]
  change (t.follow p >>= _) = _
  rw [followed, bind_assoc, bind_assoc]
  congr 1
  funext trail
  rw [← step_step_of_isIdle (show Path.isIdle "." = true by decide), bind_assoc]

section Plain

variable (plain : Path.Plain name)
include plain

theorem look_of_opened {text : String} (through : Path.Continues (directoryPath path) text name)
    (opened : t.opened path = .ok trail) (inside : t.nodeAt trail = .directory members) :
    t.look text = (members.lookup name).elim (.error .missing) fun node => .ok node.entry := by
  rw [look_of_continues through, opened]
  change (t.step trail name >>= _) = _
  rw [step_of_plain inside plain]
  cases members.lookup name <;> rfl

/-- Where there is a directory, what is seen under a name is what stands there, if that can be asked
for at all. -/
theorem look_joinPath_of_opened (opened : t.opened path = .ok trail)
    (inside : t.nodeAt trail = .directory members) :
    t.look (joinPath path name) = .error .refused ∨
      t.look (joinPath path name) =
        (members.lookup name).elim (.error .missing) fun node => .ok node.entry := by
  obtain refused | through := Path.ofText_joinPath plain path
  · left
    rw [look, find, refused]
    rfl
  · exact .inr (look_of_opened plain through opened inside)

/-- Where there is no directory, nothing is seen. -/
theorem look_joinPath_of_closed {fault : PathFault} (closed : t.opened path = .error fault) :
    ∃ fault, t.look (joinPath path name) = .error fault := by
  obtain refused | through := Path.ofText_joinPath plain path
  · refine ⟨.refused, ?_⟩
    rw [look, find, refused]
    rfl
  · refine ⟨fault, ?_⟩
    rw [look_of_continues through, closed]
    rfl

end Plain

/-! ## Writing under a name -/

def Creatable (t : FileTree) (path name : String) : Prop :=
  t.look (directoryPath path) = .ok .directory ∧
    (t.look (joinPath path name) = .error .missing ∨
      ∃ bytes, t.look (joinPath path name) = .ok (.file bytes))

/-- What writing comes to at the end of the way to a directory. -/
def fill (t : FileTree) (name : String) (bytes : List UInt8) (trail : Trail) : Option FileTree :=
  match (t.step trail name).map t.nodeAt with
  | .ok (.file _) | .error .missing => some (t.put trail name (.file bytes))
  | _ => none

theorem write?_eq_fill {text : String} {p above : Path} (bytes : List UInt8)
    (read : Path.ofText text = .ok p) (split : p.split? = some (above, name)) :
    t.write? text bytes = (t.follow above).toOption.bind (t.fill name bytes) := by
  rw [FileTree.write?, read]
  change (p.split? >>= _) = _
  rw [split]
  rfl

theorem fill_of_file {old : List UInt8} (ends : t.nodeAt trail = .file old) (bytes : List UInt8) :
    t.fill name bytes trail = none := by
  rw [fill, step_of_file ends, Except.map]

theorem bind_fill {way : Except PathFault Trail} (bytes : List UInt8) :
    way.toOption.bind (t.fill name bytes) =
      (way >>= (t.step · ".")).toOption.bind (t.fill name bytes) := by
  cases way with
  | error fault => rfl
  | ok trail =>
    change t.fill name bytes trail = (t.step trail ".").toOption.bind _
    cases ends : t.nodeAt trail with
    | file old =>
      rw [fill_of_file ends, step_of_file ends]
      rfl
    | directory members =>
      rw [step_of_isIdle ends (by decide)]
      rfl

/-- A file is written over a file or in an empty place, never over a directory. -/
theorem fill_eq_some_iff (plain : Path.Plain name) {bytes : List UInt8}
    (inside : t.nodeAt trail = .directory members) :
    t.fill name bytes trail = some after ↔
      (members.lookup name = none ∨ ∃ old, members.lookup name = some (.file old)) ∧
        t.put trail name (.file bytes) = after := by
  rw [fill, step_of_plain inside plain]
  cases members.lookup name with
  | none => simp [Except.map]
  | some node => cases node <;> simp [Except.map, nodeAt]

/-- Writing succeeds exactly where a file can be written, and then puts it into the directory. -/
theorem write?_joinPath_eq_some_iff (t : FileTree) (path : String) (plain : Path.Plain name)
    (bytes : List UInt8) (after : FileTree) :
    t.write? (joinPath path name) bytes = some after ↔
      t.Creatable path name ∧
        ∃ trail, t.opened path = .ok trail ∧ t.put trail name (.file bytes) = after := by
  rw [Creatable, look_directoryPath_iff]
  obtain refused | through := Path.ofText_joinPath plain path
  · rw [FileTree.write?, look, find, refused]
    constructor
    · exact nofun
    · rintro ⟨⟨-, missing | ⟨old, present⟩⟩, -⟩
      · cases missing
      · cases present
  · -- the file is put where the path without its last name leads, and that is the directory
    obtain ⟨above, p, read, split, -, same⟩ := t.follow_of_continues through
    rw [write?_eq_fill bytes read split, bind_fill, ← same]
    change (t.opened path).toOption.bind _ = _ ↔ _
    cases opened : t.opened path with
    | error fault => simp [Except.toOption]
    | ok trail =>
      obtain ⟨-, members, inside⟩ := opened_eq_ok_iff.mp opened
      rw [look_of_opened plain through opened inside]
      change t.fill name bytes trail = _ ↔ _
      rw [fill_eq_some_iff plain inside]
      cases members.lookup name with
      | none => simp
      | some node => cases node <;> simp [FileNode.entry]

/-- No directory gives way to a file. -/
theorem Creatable.leaf (creatable : t.Creatable path name) (plain : Path.Plain name)
    (opened : t.opened path = .ok trail) (inside : t.nodeAt trail = .directory members)
    (node : FileNode) (present : members.lookup name = some node) : ∃ bytes, node = .file bytes := by
  obtain ⟨-, seen⟩ := creatable
  obtain refused | here := look_joinPath_of_opened plain opened inside
  · simp [refused] at seen
  · rw [here, present] at seen
    cases node with
    | file bytes => exact ⟨bytes, rfl⟩
    | directory below => simp [FileNode.entry] at seen

end FileTree

end DriverMonitor
