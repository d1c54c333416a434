import DriverMonitor.Proofs.Profile.Canonical

/-! # Profiles beyond the limits

Every profile can be written, but only one within the limits of reading is read back. The encoder
checks nothing, so its bytes may be refused: with too many vectors at the count, and with too long a
name at the length of the name, after everything in front of it has been read.
-/

namespace DriverMonitor

namespace Decoder

variable {σ α β : Type} {d : Decoder σ α} {f : α → Decoder σ β} {s : σ}

theorem bind_of_ok {a : α} {between : σ} (first : d s = .ok (a, between)) :
    (d >>= f) s = f a between := by
  change (d s >>= fun p => f p.1 p.2) = _
  rw [first]
  rfl

theorem bind_of_error {reason : Corruption} (first : d s = .error reason) :
    (d >>= f) s = .error reason := by
  change (d s >>= fun p => f p.1 p.2) = _
  rw [first]
  rfl

end Decoder

namespace Profile

variable {p : Profile} {slot : SlotId}

def encodeRest (p : Profile) : List UInt8 :=
  p.embeddings.flatMap EmbeddingVector.encode ++ (p.weights.encode ++ encodeName p.name)

/-- The number of vectors is read first. -/
theorem counted (bound : p.embeddings.length < UInt64.size) :
    ByteReader.ofList.nat .vectorCount p.encode = .ok (p.embeddings.length, p.encodeRest) := by
  have split : p.encode = encodeNat p.embeddings.length ++ p.encodeRest := by
    simp only [encode, encodeBody, encodeRest, List.append_assoc]
  exact ByteReader.nat_eq_ok_iff.mpr ⟨bound, split⟩

theorem decode_of_decodeFrom_error {bytes : List UInt8} {reason : Corruption}
    (refused : decodeFrom .ofList slot bytes = .error reason) :
    decode slot bytes = .error (.corruptProfile slot reason) := by
  rw [decode, readFrom, refused]

/-- What is written is read back as itself exactly within the limits. -/
theorem decode_encode_eq_ok_iff : decode slot p.encode = .ok p ↔ p.Readable := by
  rw [decode_eq_ok_iff]
  constructor
  · rintro ⟨rest, read⟩
    cases decodeFrom_eq_ok_iff.mp read with
    | inl unnamed =>
      -- an encoding has a name behind its body, so it is longer than that
      have size := congrArg List.length unnamed.2.1
      rw [encode, List.length_append, encodeName, List.length_append, length_encodeNat] at size
      omega
    | inr named => exact named.1
  · intro readable
    exact ⟨[], decodeFrom_eq_ok_iff.mpr (.inr ⟨readable, (List.append_nil _).symm⟩)⟩

/-- Too many vectors are refused before any of them is read. -/
theorem decode_encode_of_tooManyVectors (many : maxVectors < p.embeddings.length)
    (bound : p.embeddings.length < UInt64.size) :
    decode slot p.encode = .error (.corruptProfile slot (.tooManyVectors p.embeddings.length)) := by
  apply decode_of_decodeFrom_error
  rw [decodeFrom, Decoder.bind_of_ok (counted bound), if_pos many]
  rfl

theorem name_of_nameTooLong {name fallback : String} (long : maxNameBytes < (Text.utf8 name).length)
    (bound : (Text.utf8 name).length < UInt64.size) :
    ByteReader.ofList.name fallback (encodeName name) =
      .error (.nameTooLong (Text.utf8 name).length) := by
  have sized : ByteReader.ofList.nat? .nameLength (encodeName name) =
      .ok (some (Text.utf8 name).length, Text.utf8 name) :=
    ByteReader.nat?_eq_ok_iff.mpr (.inr ⟨_, rfl, bound, rfl⟩)
  rw [ByteReader.name, Decoder.bind_of_ok sized]
  simp only [if_pos long]
  rfl

theorem decode_encode_of_nameTooLong (body : p.BodyReadable)
    (long : maxNameBytes < (Text.utf8 p.name).length)
    (bound : (Text.utf8 p.name).length < UInt64.size) :
    decode slot p.encode =
      .error (.corruptProfile slot (.nameTooLong (Text.utf8 p.name).length)) := by
  have few : p.embeddings.length < UInt64.size := Nat.lt_of_le_of_lt body.count (by decide)
  have vectors : ByteReader.ofList.vectors 0 p.embeddings.length p.encodeRest =
      .ok (p.embeddings, p.weights.encode ++ encodeName p.name) :=
    ByteReader.vectors_eq_ok_iff.mpr ⟨rfl, body.vectors, rfl⟩
  have weights : ByteReader.ofList.weights (p.weights.encode ++ encodeName p.name) =
      .ok (p.weights, encodeName p.name) :=
    ByteReader.weights_eq_ok_iff.mpr rfl
  apply decode_of_decodeFrom_error
  rw [decodeFrom, Decoder.bind_of_ok (counted few), if_neg (Nat.not_lt.mpr body.count)]
  change (ByteReader.ofList.vectors 0 p.embeddings.length >>= _) _ = _
  rw [Decoder.bind_of_ok vectors, Decoder.bind_of_ok weights]
  exact Decoder.bind_of_error (name_of_nameTooLong long bound)

end Profile

end DriverMonitor
