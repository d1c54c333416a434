/-! # Directories

A directory maps names to entries. Only lookups by name and the set of names are ever used, so the
order in which entries are kept means nothing.
-/

namespace DriverMonitor

/-- What stands under a name in a directory. -/
inductive Entry where
  | file (bytes : List UInt8)
  | directory
  deriving DecidableEq, Repr

structure Directory where
  entries : List (String × Entry) := []
  deriving DecidableEq, Repr

namespace Directory

def empty : Directory := {}

def find? (d : Directory) (name : String) : Option Entry := (d.entries.find? (·.1 == name)).map (·.2)

def names (d : Directory) : List String := d.entries.map (·.1)

def erase (d : Directory) (name : String) : Directory :=
  ⟨d.entries.filter (·.1 != name)⟩

/-- Puts an entry in the place of whatever stood under the name. -/
def insert (d : Directory) (name : String) (entry : Entry) : Directory :=
  ⟨(name, entry) :: (d.erase name).entries⟩

theorem find?_erase (d : Directory) (name other : String) :
    (d.erase name).find? other = if other = name then none else d.find? other := by
  simp only [find?, erase, List.find?_filter]
  split <;> rename_i h
  · subst h
    simp [List.find?_eq_none]
  · congr 2
    funext p
    by_cases hp : p.1 = other <;> simp_all

theorem find?_insert (d : Directory) (name other : String) (entry : Entry) :
    (d.insert name entry).find? other = if other = name then some entry else d.find? other := by
  have h := find?_erase d name other
  by_cases ho : other = name
  · simp [find?, insert, ho]
  · simp only [find?, if_neg ho] at h
    simp [find?, insert, Ne.symm ho, h, ho]

end Directory

end DriverMonitor
