import DriverMonitor.Proofs.Profile.Limits

/-! # Profile files that were cut off

A write may stop at any byte. A decoder `NoticesCuts` if, given only the first of the bytes that it
reads, it says that they are truncated, and given at least these, reads the same. That is kept by
sequences of decoders, so it holds of everything in front of the name. The name alone may be missing,
but only as a whole: `ByteReader.name_of_cut`.
-/

namespace DriverMonitor

/-! ## Decoders that notice cuts -/

namespace Decoder

variable {α β : Type}

/-- What a decoder reads off some bytes, it reads off the first of them too, or these are truncated. -/
def NoticesCuts (d : Decoder (List UInt8) α) : Prop :=
  ∀ ⦃kept cut rest : List UInt8⦄ ⦃a : α⦄, d (kept ++ cut) = .ok (a, rest) →
    (∃ left, d kept = .ok (a, left) ∧ rest = left ++ cut) ∨ ∃ part, d kept = .error (.truncated part)

/-- If the first decoder gets through, the cut is in what it leaves. -/
theorem NoticesCuts.bind {d : Decoder (List UInt8) α} {f : α → Decoder (List UInt8) β}
    (first : NoticesCuts d) (second : ∀ a, NoticesCuts (f a)) : NoticesCuts (d >>= f) := by
  intro kept cut rest b read
  obtain ⟨a, between, readFirst, readSecond⟩ := bind_eq_ok_iff.mp read
  obtain ⟨left, keptFirst, rfl⟩ | ⟨part, truncated⟩ := first readFirst
  · rw [bind_of_ok keptFirst]
    exact second a readSecond
  · exact .inr ⟨part, bind_of_error truncated⟩

theorem NoticesCuts.ite {condition : Prop} [Decidable condition] {d e : Decoder (List UInt8) α}
    (first : NoticesCuts d) (second : NoticesCuts e) :
    NoticesCuts (if condition then d else e) := by
  split
  · exact first
  · exact second

/-- With nothing left behind what is read, no byte of it can be missing. -/
theorem NoticesCuts.truncated {d : Decoder (List UInt8) α} (notices : NoticesCuts d)
    {kept cut : List UInt8} {a : α} (read : d (kept ++ cut) = .ok (a, [])) (missing : cut ≠ []) :
    ∃ part, d kept = .error (.truncated part) := by
  obtain ⟨left, -, rest⟩ | truncated := notices read
  · exact absurd (List.append_eq_nil_iff.mp rest.symm).2 missing
  · exact truncated

end Decoder

namespace ByteReader

open Decoder

def body {σ : Type} (input : ByteReader σ) :
    Decoder σ (List EmbeddingVector × GazeCoefficients) := do
  let count ← input.nat .vectorCount
  if maxVectors < count then throw (.tooManyVectors count)
  let embeddings ← input.vectors 0 count
  return (embeddings, ← input.weights)

theorem body_encodeBody_append {p : Profile} (readable : p.BodyReadable) (rest : List UInt8) :
    ofList.body (p.encodeBody ++ rest) = .ok ((p.embeddings, p.weights), rest) := by
  have few : p.embeddings.length < UInt64.size := Nat.lt_of_le_of_lt readable.count (by decide)
  simp only [body, bind_eq_ok_iff, nat_eq_ok_iff, guard_eq_ok_iff, vectors_eq_ok_iff,
    weights_eq_ok_iff, pure_eq_ok_iff]
  refine ⟨_, _, ⟨few, ?_⟩, Nat.not_lt.mpr readable.count, p.embeddings, _,
    ⟨rfl, readable.vectors, rfl⟩, p.weights, rest, rfl, rfl, rfl⟩
  simp only [Profile.encodeBody, List.append_assoc]

/-- Some bytes of a word, but not all of them, are not the end. -/
theorem nat?_of_short {part : ProfilePart} {bytes : List UInt8} (some : bytes ≠ [])
    (short : bytes.length < 8) : ofList.nat? part bytes = .error (.truncated part) := by
  rw [nat?_ofList, wordOrEnd, if_neg some, if_pos short]

end ByteReader

namespace Profile

open Decoder ProfileFormat

variable {p : Profile} {slot : SlotId}

/-- A file is read as a body and a name. -/
theorem decodeFrom_eq {σ : Type} (input : ByteReader σ) (slot : SlotId) :
    decodeFrom input slot = (do
      let (embeddings, weights) ← input.body
      let name ← input.name slot.driverName
      return { name, embeddings, weights }) := by
  simp only [decodeFrom, ByteReader.body, bind_assoc]
  congr 1
  funext count
  split
  · simp
  · simp

/-- A file that ends right behind the weights has lost its name and nothing else. -/
theorem decode_encodeBody (readable : p.BodyReadable) :
    decode slot p.encodeBody = .ok { p with name := slot.driverName } :=
  decode_eq_ok_iff.mpr ⟨[], decodeFrom_eq_ok_iff.mpr (.inl ⟨⟨readable.1, readable.2⟩, rfl, rfl, rfl⟩)⟩

end Profile

end DriverMonitor
