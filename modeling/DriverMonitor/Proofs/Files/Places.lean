import DriverMonitor.Failure
import DriverMonitor.Files.Tree

/-! # Places in a tree of files

A place is named by the names on the way down to it, none of which leads up, so each place has one
name only. Whatever path a file is found by, the way to it goes down from the root step by step
(`FileTree.Leads`), and a file that is written at its end changes this one place:
`FileTree.entryAt?_put`.
-/

namespace DriverMonitor

namespace FileNode

variable {members : List (String × FileNode)} {name : String} {node : FileNode}

def below? : FileNode → List String → Option FileNode
  | node, [] => some node
  | file _, _ :: _ => none
  | directory members, name :: rest => (members.lookup name).bind (·.below? rest)

/-- To go down some names and then others is to go down all of them. -/
theorem below?_append (node : FileNode) (front back : List String) :
    node.below? (front ++ back) = (node.below? front).bind (·.below? back) := by
  induction front generalizing node with
  | nil => simp [below?]
  | cons name rest ih =>
    cases node with
    | file bytes => rfl
    | directory members =>
      rw [List.cons_append, below?, below?, Option.bind_assoc]
      simp only [ih]

theorem lookup_filter_ne {other : String} (differs : other ≠ name) :
    (members.filter (·.1 != name)).lookup other = members.lookup other := by
  induction members with
  | nil => rfl
  | cons first rest ih =>
    obtain ⟨key, value⟩ := first
    by_cases dropped : key = name
    · simp [dropped, List.lookup_cons, beq_false_of_ne differs, ih]
    · simp [dropped, List.lookup_cons, ih]

/-- Only what stands under one name is replaced. -/
theorem below?_insert_cons (other : String) (rest : List String) :
    ((directory members).insert name node).below? (other :: rest) =
      if other = name then node.below? rest else (directory members).below? (other :: rest) := by
  rw [insert, below?, below?, List.lookup_cons]
  split
  next same => simp [eq_of_beq same]
  next differs =>
    have differs : other ≠ name := by simpa using differs
    rw [lookup_filter_ne differs, if_neg differs]

end FileNode

namespace Trail

def place (trail : Trail) : List String := (trail.map (·.1)).reverse

theorem place_cons (name : String) (node : FileNode) (trail : Trail) :
    place ((name, node) :: trail) = trail.place ++ [name] := by
  simp [place]

end Trail

namespace FileTree

variable {t : FileTree} {trail next : Trail} {name : String}
variable {members : List (String × FileNode)}

def entryAt? (t : FileTree) (place : List String) : Option Entry :=
  (t.root.below? place).map FileNode.entry

/-! ## Ways down -/

/-- Every name of a way leads down to what the way says stands under it. -/
inductive Leads (t : FileTree) : Trail → Prop
  | root : Leads t []
  | down {trail members name node} : Leads t trail → t.nodeAt trail = .directory members →
    members.lookup name = some node → Leads t ((name, node) :: trail)

theorem Leads.tail (leads : t.Leads trail) : t.Leads trail.tail := by
  cases leads with
  | root => exact .root
  | down above _ _ => exact above

/-- A step goes down one name, up one name, or nowhere. -/
theorem Leads.step (leads : t.Leads trail) (stepped : t.step trail name = .ok next) :
    t.Leads next := by
  -- nothing leads on from a file
  cases inside : t.nodeAt trail with
  | file bytes =>
    rw [FileTree.step, inside] at stepped
    cases stepped
  | directory members =>
    rw [FileTree.step, inside] at stepped
    revert stepped
    simp only
    split
    next =>
      rintro ⟨⟩
      exact leads
    next =>
      split
      next =>
        rintro ⟨⟩
        exact leads.tail
      next =>
        split
        next => exact nofun
        next =>
          cases found : members.lookup name with
          | none => exact nofun
          | some node =>
            rintro ⟨⟩
            exact leads.down inside found

theorem Leads.foldlM {names : List String} (leads : t.Leads trail)
    (went : names.foldlM t.step trail = .ok next) : t.Leads next := by
  induction names generalizing trail with
  | nil =>
    cases went
    exact leads
  | cons name rest ih =>
    obtain ⟨middle, stepped, later⟩ := exists_of_bind_eq_ok went
    exact ih (leads.step stepped) later

theorem leads_of_follow {p : Path} (found : t.follow p = .ok trail) : t.Leads trail := by
  rw [follow] at found
  cases absolute : p.absolute with
  | true =>
    rw [absolute] at found
    exact Leads.root.foldlM found
  | false =>
    rw [absolute] at found
    obtain ⟨start, began, went⟩ := exists_of_bind_eq_ok found
    exact (Leads.root.foldlM began).foldlM went

theorem leads_of_find {path : String} (found : t.find path = .ok trail) : t.Leads trail := by
  obtain ⟨p, -, followed⟩ := exists_of_bind_eq_ok found
  exact leads_of_follow followed

/-! ## What stands at a place -/

/-- At the place of a way stands what the way ends in. -/
theorem Leads.below?_place (leads : t.Leads trail) :
    t.root.below? trail.place = some (t.nodeAt trail) := by
  induction leads with
  | root => rfl
  | down above inside found ih =>
    rw [Trail.place_cons, FileNode.below?_append, ih, inside]
    simp [FileNode.below?, found, nodeAt]

/-- A node that is carried up to the root is found again at the end of its way. -/
theorem Leads.below?_rootWith (leads : t.Leads trail) (node : FileNode) (rest : List String) :
    (t.rootWith node trail).below? (trail.place ++ rest) = node.below? rest := by
  induction leads generalizing node rest with
  | root => rfl
  | down above inside found ih =>
    -- the node is put into the directory above, and that is carried up in its turn
    rw [rootWith, Trail.place_cons, List.append_assoc, ih, inside]
    simp [FileNode.below?_insert_cons]

/-- Elsewhere there stands what stood there. -/
theorem Leads.entry_below?_rootWith (leads : t.Leads trail) (node : FileNode) {place : List String}
    (elsewhere : ¬ trail.place <+: place) :
    ((t.rootWith node trail).below? place).map FileNode.entry = t.entryAt? place := by
  induction leads generalizing node with
  | root => exact absurd (List.nil_prefix) elsewhere
  | @down trail members name _ above inside found ih =>
    rw [rootWith]
    by_cases within : trail.place <+: place
    · -- in the directory that has changed, another name is looked up, or none
      obtain ⟨rest, rfl⟩ := within
      rw [above.below?_rootWith, entryAt?, FileNode.below?_append, above.below?_place, inside]
      cases rest with
      | nil => rfl
      | cons other rest =>
        have differs : other ≠ name := by
          rintro rfl
          apply elsewhere
          simp [Trail.place_cons]
        rw [FileNode.below?_insert_cons, if_neg differs]
        rfl
    · exact ih _ within

/-- Writing a file changes what stands at its place, and nothing else. -/
theorem entryAt?_put (leads : t.Leads trail) (inside : t.nodeAt trail = .directory members)
    (leaf : ∀ node, members.lookup name = some node → ∃ bytes, node = .file bytes)
    (bytes : List UInt8) (place : List String) :
    (t.put trail name (.file bytes)).entryAt? place =
      if place = trail.place ++ [name] then some (.file bytes) else t.entryAt? place := by
  rw [entryAt?, put, inside]
  by_cases within : trail.place <+: place
  · obtain ⟨rest, rfl⟩ := within
    rw [leads.below?_rootWith, entryAt?, FileNode.below?_append, leads.below?_place, inside]
    simp only [List.append_cancel_left_eq]
    cases rest with
    | nil => simp [FileNode.insert, FileNode.below?, FileNode.entry]
    | cons other rest =>
      rw [FileNode.below?_insert_cons]
      by_cases same : other = name
      · subst same
        cases rest with
        | nil => simp [FileNode.below?, FileNode.entry]
        | cons below rest =>
          -- nothing lies below a file, neither before nor after
          cases found : members.lookup other with
          | none => simp [FileNode.below?, found]
          | some node =>
            obtain ⟨old, rfl⟩ := leaf node found
            simp [FileNode.below?, found]
      · simp [same]
  · rw [leads.entry_below?_rootWith _ within, if_neg]
    rintro rfl
    exact within (List.prefix_append _ _)

end FileTree

end DriverMonitor
