import DriverMonitor.Identity.Profile.ByteReader

/-! # Bytes that arrive in pieces

All pieces and interruptions in which a file may hand out its bytes, written down in advance. Every
such list is a `ByteReader`.
-/

namespace DriverMonitor

/-- What the next read of a file gives. -/
inductive Arrival where
  /-- At least one byte. A read takes as many of them as it asked for and leaves the others. -/
  | bytes (first : UInt8) (rest : List UInt8)
  /-- Nothing yet. -/
  | interrupted
  deriving DecidableEq, Repr

/-- All that the reads of a file will give. -/
abbrev Delivery := List Arrival

namespace Delivery

def piece : Arrival → List UInt8
  | .bytes first rest => first :: rest
  | .interrupted => []

/-- All bytes that are delivered. -/
def bytes (d : Delivery) : List UInt8 := d.flatMap piece

/-- The arrivals that deliver some bytes in one piece, none if there are none. -/
def ofBytes : List UInt8 → Delivery
  | [] => []
  | first :: rest => [.bytes first rest]

theorem bytes_ofBytes_append (bs : List UInt8) (d : Delivery) :
    bytes (ofBytes bs ++ d) = bs ++ bytes d := by
  cases bs <;> rfl

theorem count_ofBytes_append (bs : List UInt8) (d : Delivery) :
    (ofBytes bs ++ d).count .interrupted = d.count .interrupted := by
  cases bs <;> rfl

/-- A single read of at most `n` bytes. -/
def read (n : Nat) : Delivery → Portion × Delivery
  | [] => (.piece [], [])
  | .interrupted :: d => (.interrupted, d)
  | .bytes first rest :: d =>
    (.piece ((first :: rest).take n), ofBytes ((first :: rest).drop n) ++ d)

/-- Hands out bytes as they arrive. -/
def reader : ByteReader Delivery where
  read := read
  bytes := bytes
  interruptions d := d.count .interrupted
  of_interrupted := by
    rintro n (_ | ⟨⟨first, rest⟩ | _, d⟩) t ⟨⟩
    exact ⟨rfl, by simp⟩
  of_piece := by
    rintro n (_ | ⟨⟨first, rest⟩ | _, d⟩) t p ⟨⟩
    · exact ⟨Nat.zero_le n, rfl, Nat.le_refl _⟩
    · rw [bytes_ofBytes_append, count_ofBytes_append, ← List.append_assoc, List.take_append_drop]
      exact ⟨List.length_take_le n _, rfl, List.count_le_count_cons⟩
  of_empty := by
    rintro n (_ | ⟨⟨first, rest⟩ | _, d⟩) t wanted empty
    · rfl
    -- a piece that has a byte is not taken for the end
    · obtain ⟨n, rfl⟩ := Nat.exists_eq_succ_of_ne_zero (Nat.ne_of_gt wanted)
      cases empty
    · cases empty

end Delivery

end DriverMonitor
