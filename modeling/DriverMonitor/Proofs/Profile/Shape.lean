import DriverMonitor.Proofs.Profile.Limits

/-! # Shapes of vectors

A vector is `Shaped` if its shape has one place for each value. `EmbeddingVector.ofShape` counts the
places in a word, so it notices a wrong shape only if the word holds their number: a larger product
of rows and columns wraps around, and may come out as the number of values. Columns are always
`Shaped`, and so is what is read, because reading limits the product itself. A vector whose product
has wrapped around can be made and written, but it is refused when it is read back.
-/

namespace DriverMonitor

theorem Profile.readable_of_decode {slot : SlotId} {bytes : List UInt8} {p : Profile}
    (decoded : decode slot bytes = .ok p) {v : EmbeddingVector} (stored : v ∈ p.embeddings) :
    v.Readable := by
  obtain ⟨rest, read⟩ := decode_eq_ok_iff.mp decoded
  obtain ⟨body, -⟩ | ⟨readable, -⟩ := decodeFrom_eq_ok_iff.mp read
  · exact body.vectors v stored
  · exact readable.vectors v stored

namespace ByteReader

variable {v : EmbeddingVector} {index : Nat} {rest : List UInt8}

/-- A shape with too many places is refused, whatever the values behind it are. -/
theorem vector_of_implausible (many : maxVectorValues < v.rows.toNat * v.cols.toNat) :
    ofList.vector index (v.encode ++ rest) =
      .error (.implausibleShape index v.rows.toNat v.cols.toNat) := by
  let payload := v.values.flatMap encodeSingle ++ rest
  have rows : ofList.nat .vectorRows (v.encode ++ rest) =
      .ok (v.rows.toNat, encodeNat v.cols.toNat ++ payload) := by
    refine nat_eq_ok_iff.mpr ⟨v.rows.toNat_lt, ?_⟩
    simp only [EmbeddingVector.encode, payload, List.append_assoc]
  have cols : ofList.nat .vectorCols (encodeNat v.cols.toNat ++ payload) =
      .ok (v.cols.toNat, payload) :=
    nat_eq_ok_iff.mpr ⟨v.cols.toNat_lt, rfl⟩
  rw [vector, Decoder.bind_of_ok rows, Decoder.bind_of_ok cols, if_pos many]
  rfl

end ByteReader

namespace EmbeddingVector

variable {rows cols : UInt64} {values : Embedding} {v : EmbeddingVector}

def Shaped (v : EmbeddingVector) : Prop := v.rows.toNat * v.cols.toNat = v.values.length

/-- Vectors made in a given shape, columns of no more values than a word counts, and the vectors of
profiles that were read: there are no others. -/
inductive Obtained : EmbeddingVector → Prop where
  | ofShape {rows cols : UInt64} {values : Embedding} {v : EmbeddingVector}
      (made : EmbeddingVector.ofShape rows cols values = .ok v) : Obtained v
  | column {values : Embedding} (counted : values.length < UInt64.size) : Obtained (column values)
  | decode {slot : SlotId} {bytes : List UInt8} {p : Profile} {v : EmbeddingVector}
      (decoded : Profile.decode slot bytes = .ok p) (stored : v ∈ p.embeddings) : Obtained v

/-- Places are counted modulo the size of a word. -/
theorem ofShape_eq (rows cols : UInt64) (values : Embedding) :
    ofShape rows cols values =
      if rows.toNat * cols.toNat % UInt64.size = values.length then .ok ⟨rows, cols, values⟩
      else .error (.dimensionMismatch (rows.toNat * cols.toNat % UInt64.size) values.length) := by
  have places : (rows * cols).toNat = rows.toNat * cols.toNat % UInt64.size :=
    UInt64.toNat_mul rows cols
  rw [ofShape, places]

theorem ofShape_eq_ok_iff :
    ofShape rows cols values = .ok v ↔
      rows.toNat * cols.toNat % UInt64.size = values.length ∧ v = ⟨rows, cols, values⟩ := by
  rw [ofShape_eq]
  split
  next same =>
    rw [Except.ok.injEq]
    exact ⟨fun made => ⟨same, made.symm⟩, fun made => made.2.symm⟩
  next other => exact ⟨nofun, fun made => absurd made.1 other⟩

theorem shaped_column (counted : values.length < UInt64.size) : (column values).Shaped := by
  have rows : (UInt64.ofNat values.length).toNat = values.length :=
    UInt64.toNat_ofNat_of_lt' counted
  rw [Shaped, column, rows]
  exact Nat.mul_one values.length

theorem Obtained.length_lt (obtained : v.Obtained) : v.values.length < UInt64.size := by
  cases obtained with
  | ofShape made =>
    obtain ⟨same, rfl⟩ := ofShape_eq_ok_iff.mp made
    rw [← same]
    exact Nat.mod_lt _ (by decide)
  | column counted => exact counted
  | decode decoded stored =>
    exact Nat.lt_of_le_of_lt (Profile.readable_of_decode decoded stored).size (by decide)

/-- Only a product that has wrapped around makes a wrong shape. -/
theorem Obtained.shaped_iff (obtained : v.Obtained) :
    v.Shaped ↔ v.rows.toNat * v.cols.toNat < UInt64.size := by
  constructor
  · intro shaped
    rw [shaped]
    exact obtained.length_lt
  · intro fits
    -- only the constructor takes a shape as it is given
    cases obtained with
    | ofShape made =>
      obtain ⟨same, rfl⟩ := ofShape_eq_ok_iff.mp made
      exact (Nat.mod_eq_of_lt fits).symm.trans same
    | column counted => exact shaped_column counted
    | decode decoded stored => exact (Profile.readable_of_decode decoded stored).shape

/-- A vector that is not too long is read back exactly if its product has not wrapped around. -/
theorem Obtained.vector_encode (obtained : v.Obtained) (short : v.values.length ≤ maxVectorValues)
    (index : Nat) (rest : List UInt8) :
    ByteReader.ofList.vector index (v.encode ++ rest) =
      if v.rows.toNat * v.cols.toNat < UInt64.size then .ok (v, rest)
      else .error (.implausibleShape index v.rows.toNat v.cols.toNat) := by
  split
  next fits =>
    have readable : v.Readable := ⟨obtained.shaped_iff.mpr fits, short⟩
    exact ByteReader.vector_eq_ok_iff.mpr ⟨readable, rfl⟩
  next wrapped =>
    have limit : maxVectorValues < UInt64.size := by decide
    exact ByteReader.vector_of_implausible (by omega)

/-- While a word holds the product of rows and columns, exactly the right shapes are accepted. A
larger product is taken for what is left of it, so that a shape may be accepted, which is wrong then.
Among all vectors that there are, these alone are not `Shaped` and, if they are not too long, not
read back; they are neither columns nor read. -/
theorem shaped_unless_wrapped (rows cols : UInt64) (values : Embedding) :
    let v : EmbeddingVector := ⟨rows, cols, values⟩
    let places := rows.toNat * cols.toNat
    (places < UInt64.size → ofShape rows cols values =
        if places = values.length then .ok v
        else .error (.dimensionMismatch places values.length)) ∧
      (UInt64.size ≤ places → (v.Obtained → ¬ v.Shaped) ∧ ofShape rows cols values =
        if places % UInt64.size = values.length then .ok v
        else .error (.dimensionMismatch (places % UInt64.size) values.length)) ∧
      (values.length < UInt64.size → (column values).Shaped) ∧
      (∀ slot bytes p, Profile.decode slot bytes = .ok p → v ∈ p.embeddings → v.Shaped) ∧
      (v.Obtained → (v.Shaped ↔ places < UInt64.size) ∧
        (values.length ≤ maxVectorValues → ∀ index rest,
          ByteReader.ofList.vector index (v.encode ++ rest) =
            if places < UInt64.size then .ok (v, rest)
            else .error (.implausibleShape index rows.toNat cols.toNat))) := by
  intro v places
  refine ⟨?_, ?_, shaped_column, ?_, ?_⟩
  · intro fits
    rw [ofShape_eq, Nat.mod_eq_of_lt fits]
  · intro wraps
    -- the number of values that a vector has is less than a word holds
    refine ⟨fun obtained shaped => ?_, ofShape_eq rows cols values⟩
    exact Nat.not_lt.mpr wraps (obtained.shaped_iff.mp shaped)
  · intro slot bytes p decoded stored
    exact (Profile.readable_of_decode decoded stored).shape
  · intro obtained
    exact ⟨obtained.shaped_iff, obtained.vector_encode⟩

/-- Six places are noticed to be too many for no values, but `2 ^ 64` places are not, and a vector of
such a shape cannot be read back. A column can. -/
theorem shaped_unless_wrapped_no_values :
    let v : EmbeddingVector := ⟨4294967296, 4294967296, []⟩
    let p : Profile := { name := "Ana", embeddings := [.column [.zero]] }
    ofShape 2 3 [] = .error (.dimensionMismatch 6 0) ∧
      ofShape v.rows v.cols v.values = .ok v ∧ ¬ v.Shaped ∧
      ByteReader.ofList.vector 0 v.encode =
        .error (.implausibleShape 0 4294967296 4294967296) ∧
      (column [.zero]).Shaped ∧ Profile.decode ⟨1⟩ p.encode = .ok p ∧
      ∀ v ∈ p.embeddings, v.Shaped := by
  intro v p
  have noticed := (shaped_unless_wrapped 2 3 []).1 (by decide)
  rw [if_neg (by decide)] at noticed
  obtain ⟨-, wrapped, -, -, others⟩ := shaped_unless_wrapped v.rows v.cols v.values
  obtain ⟨wrong, accepted⟩ := wrapped (by decide)
  have made : ofShape v.rows v.cols v.values = .ok v := accepted.trans (if_pos (by decide))
  have refused := (others (.ofShape made)).2 (by decide) 0 []
  rw [List.append_nil, if_neg (by decide)] at refused
  have readable : p.Readable := ⟨⟨by decide, by decide⟩, by decide +kernel⟩
  have decoded : Profile.decode ⟨1⟩ p.encode = .ok p :=
    Profile.decode_encode_eq_ok_iff.mpr readable
  obtain ⟨-, -, columns, stored, -⟩ := shaped_unless_wrapped 1 1 [.zero]
  refine ⟨noticed, made, wrong (.ofShape made), refused, columns (by decide), decoded, ?_⟩
  intro v inside
  cases List.mem_singleton.mp inside
  exact stored ⟨1⟩ p.encode p decoded inside

end EmbeddingVector

end DriverMonitor
