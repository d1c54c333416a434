import DriverMonitor.Identity.OpenStore
import DriverMonitor.Proofs.Files.Members
import DriverMonitor.Proofs.Store.FileName

/-! # The store that is seen in a directory

Looking at a directory asks for each of its names under a path of its own. What the store then says of
a slot is what the path of that slot leads to (`OpenStore.entry?_seen`), for any path of the directory
and whatever else stands there.
-/

namespace DriverMonitor

/-! ## Paths of slots -/

theorem Text.utf8ByteSize_ofList_le (letters : List Char) :
    (String.ofList letters).utf8ByteSize ≤ 4 * letters.length := by
  induction letters with
  | nil => simp
  | cons c rest ih =>
    rw [String.ofList_cons, String.utf8ByteSize_append, String.utf8ByteSize_singleton,
      List.length_cons]
    have small := Char.utf8Size_le_four c
    omega

namespace SlotId

/-- A slot has at most ten digits. -/
theorem length_toText_le (slot : SlotId) : slot.toText.toList.length ≤ 10 := by
  have bound : slot.toNat < UInt32.size := slot.number.toNat_lt
  rw [toText, String.toList_ofList, Nat.length_toDigits_le_iff (by decide) (by decide)]
  exact Nat.lt_of_lt_of_le bound (by decide)

theorem mem_toList_fileName (slot : SlotId) : 'n' ∈ slot.fileName.toList := by
  simp [toList_fileName]

/-- The file of a slot has a name that leads down from its directory. -/
theorem plain_fileName (slot : SlotId) : Path.Plain slot.fileName where
  -- a numeral has digits only
  slashless := by
    rw [toList_fileName, List.mem_append, not_or]
    refine ⟨fun slash => ?_, by decide⟩
    rw [toText, String.toList_ofList] at slash
    exact absurd (Nat.isDigit_of_mem_toDigits (by decide) (by decide) slash) (by decide)
  leads := by
    have last := slot.mem_toList_fileName
    rw [Path.isIdle, decide_eq_false_iff_not]
    rintro (empty | dot)
    · simp [empty] at last
    · simp [dot] at last
  down := by
    intro up
    have last := slot.mem_toList_fileName
    simp [up] at last
  short := by
    have size := Text.utf8ByteSize_ofList_le slot.fileName.toList
    have digits := slot.length_toText_le
    rw [String.ofList_toList, toList_fileName, List.length_append] at size
    have few : Path.maxNameBytes = 255 := rfl
    simp only [List.length_cons, List.length_nil] at size
    omega

end SlotId

/-! ## The store of a directory -/

theorem Directory.find?_filterMap (look : String → Option Entry) (names : List String)
    (name : String) :
    find? ⟨names.filterMap fun name => (look name).map (name, ·)⟩ name =
      if name ∈ names then look name else none := by
  induction names with
  | nil => rfl
  | cons first rest ih =>
    rw [find?] at ih ⊢
    rw [List.filterMap_cons]
    -- an earlier member of another name does not hide this one
    by_cases here : first = name
    · subst here
      cases seen : look first with
      | none => simpa [seen] using ih
      | some entry => simp
    · have elsewhere : name ≠ first := Ne.symm here
      cases look first with
      | none => simpa [elsewhere] using ih
      | some entry => simpa [here, elsewhere] using ih

namespace OpenStore

section Actions

variable {σ ε α β : Type} {before after : σ} {a : α}

theorem bind_eq {action : StateM σ α} (acts : action before = (a, after)) (next : α → StateM σ β) :
    (action >>= next) before = next a after := by
  change next (action before).1 (action before).2 = _
  rw [acts]

theorem bind_eq_of_ok {action : ExceptT ε (StateM σ) α} (acts : action before = (.ok a, after))
    (next : α → ExceptT ε (StateM σ) β) : (action >>= next) before = next a after := by
  change ExceptT.bindCont next (action before).1 (action before).2 = _
  rw [acts]
  rfl

theorem bind_eq_of_error {action : ExceptT ε (StateM σ) α} {e : ε}
    (acts : action before = (.error e, after)) (next : α → ExceptT ε (StateM σ) β) :
    (action >>= next) before = (.error e, after) := by
  change ExceptT.bindCont next (action before).1 (action before).2 = _
  rw [acts]
  rfl

theorem lift_eq {action : StateM σ α} (acts : action before = (a, after)) :
    (ExceptT.lift action : ExceptT ε (StateM σ) α) before = (.ok a, after) := by
  change (Except.ok (action before).1, (action before).2) = _
  rw [acts]

end Actions

variable {t : FileTree} {path : String} {capacity : UInt32}

theorem filterMapM_member? (t : FileTree) (path : String) (names : List String) :
    names.filterMapM (member? FileTree.access path) t =
      (names.filterMap fun name => (t.look (joinPath path name)).toOption.map (name, ·), t) := by
  induction names with
  | nil => rfl
  | cons name rest ih =>
    have asked : member? FileTree.access path name t =
        ((t.look (joinPath path name)).toOption.map (name, ·), t) := rfl
    rw [List.filterMapM_cons, List.filterMap_cons, bind_eq asked]
    cases t.look (joinPath path name) with
    | error fault => exact ih
    | ok entry => exact bind_eq ih _

/-- What is known of a directory after it was looked at. -/
def seen (t : FileTree) (path : String) (capacity : UInt32) : OpenStore where
  path := path
  store := {
    directory := (t.names? (directoryPath path)).map fun names =>
      ⟨names.filterMap fun name => (t.look (joinPath path name)).toOption.map (name, ·)⟩
    capacity := capacity
    listable := !path.isEmpty }

/-- To look at a directory changes nothing. -/
theorem view_eq (t : FileTree) (path : String) (capacity : UInt32) :
    view FileTree.access path capacity t = (seen t path capacity, t) := by
  have listed : FileTree.access.names? (directoryPath path) t =
      (t.names? (directoryPath path), t) := rfl
  rw [view]
  change (FileTree.access.names? (directoryPath path) >>= _) t = _
  rw [bind_eq listed, seen]
  cases t.names? (directoryPath path) with
  | none => rfl
  | some names =>
    let asked := names.filterMapM (member? FileTree.access path)
    have taken : (asked >>= fun members => pure (some ⟨members⟩ : Option Directory)) t = (some ⟨_⟩, t) :=
      bind_eq (filterMapM_member? t path names) _
    exact bind_eq taken _

/-- A slot is seen to hold what its path leads to. -/
theorem entry?_seen (t : FileTree) (path : String) (capacity : UInt32) (slot : SlotId) :
    (seen t path capacity).store.entry? slot =
      (t.look (joinPath path slot.fileName)).toOption := by
  rw [Store.entry?, seen]
  cases opened : t.opened path with
  | error fault =>
    obtain ⟨fault, unseen⟩ := t.look_joinPath_of_closed slot.plain_fileName opened
    rw [FileTree.names?_of_closed opened, unseen]
    rfl
  | ok trail =>
    obtain ⟨-, members, inside⟩ := FileTree.opened_eq_ok_iff.mp opened
    rw [FileTree.names?_of_opened opened inside, Option.map_some, Option.bind_some,
      Directory.find?_filterMap]
    split
    next => rfl
    next absent =>
      -- a name that is not listed is not there, so its path leads to nothing either
      have missing : members.lookup slot.fileName = none := by
        rw [List.lookup_eq_none_iff]
        intro member present
        rw [bne_iff_ne]
        rintro same
        exact absent (List.mem_map.mpr ⟨member, present, same.symm⟩)
      obtain refused | here := FileTree.look_joinPath_of_opened slot.plain_fileName opened inside
      · rw [refused]
        rfl
      · rw [here, missing]
        rfl

theorem isTaken_seen (t : FileTree) (path : String) (capacity : UInt32) :
    ((seen t path capacity).store.isTaken · = true) =
      fun slot => ∃ entry, t.look (joinPath path slot.fileName) = .ok entry := by
  funext slot
  rw [Store.isTaken, entry?_seen]
  cases t.look (joinPath path slot.fileName) <;> simp [Except.toOption]

/-- The store has a directory if there is one to look at. -/
theorem directory_seen_iff :
    (seen t path capacity).store.directory = none ↔
      t.look (directoryPath path) ≠ .ok .directory := by
  rw [ne_eq, FileTree.look_directoryPath_iff, seen, Option.map_eq_none_iff]
  cases opened : t.opened path with
  | error fault => simp [FileTree.names?_of_closed opened]
  | ok trail =>
    obtain ⟨-, members, inside⟩ := FileTree.opened_eq_ok_iff.mp opened
    simp [FileTree.names?_of_opened opened inside]

end OpenStore

end DriverMonitor
