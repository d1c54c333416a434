import DriverMonitor.Proofs.Profile.Pieces

/-! # Reading accepts what writing produces

Each part of a profile is read by a decoder and written by an encoder of its own. For every part one
equivalence says all that the decoder does on bytes that are there: it gives a value and a rest
exactly if the bytes are those that the value is written as, followed by the rest, and the value is
within the limits of the format. The lists of vectors go by induction on their number.

`decodeFrom_eq_ok_iff` puts the parts together. Its right side has two cases, because a file may end
before the name.
-/

namespace DriverMonitor

open Number

/-! ## Words and values -/

theorem encodeNat_toNat {field : List UInt8} (size : field.length = 8) :
    encodeNat (LittleEndian.toNat field) = field := by
  rw [encodeNat, ← size]
  exact LittleEndian.ofNat_toNat field

theorem toNat_encodeNat {n : Nat} (bound : n < UInt64.size) : LittleEndian.toNat (encodeNat n) = n :=
  LittleEndian.toNat_ofNat (by simpa using bound)

@[simp] theorem length_encodeNat (n : Nat) : (encodeNat n).length = 8 :=
  LittleEndian.length_ofNat 8 n

@[simp] theorem length_encodeSingle (x : Single) : (encodeSingle x).length = 4 :=
  LittleEndian.length_ofNat 4 x.bits.toNat

theorem length_flatMap_encodeSingle (xs : List Single) :
    (xs.flatMap encodeSingle).length = 4 * xs.length := by
  induction xs with
  | nil => rfl
  | cons x xs ih =>
    simp only [List.flatMap_cons, List.length_append, length_encodeSingle, ih, List.length_cons]
    omega

theorem decodeSingles_encodeSingle_append (x : Single) (rest : List UInt8) :
    decodeSingles (encodeSingle x ++ rest) = x :: decodeSingles rest := by
  have word : LittleEndian.toNat (encodeSingle x) = x.bits.toNat :=
    LittleEndian.toNat_ofNat (by simpa using x.bits.toNat_lt)
  have opened : decodeSingles (encodeSingle x ++ rest) =
      ⟨.ofNat (LittleEndian.toNat (encodeSingle x))⟩ :: decodeSingles rest := rfl
  rw [opened, word, UInt32.ofNat_toNat]

theorem decodeSingles_flatMap_encodeSingle (xs : List Single) :
    decodeSingles (xs.flatMap encodeSingle) = xs := by
  induction xs with
  | nil => rfl
  | cons x xs ih => rw [List.flatMap_cons, decodeSingles_encodeSingle_append, ih]

theorem encodeSingle_ofNat_toNat {field : List UInt8} (size : field.length = 4) :
    encodeSingle ⟨.ofNat (LittleEndian.toNat field)⟩ = field := by
  have bound : LittleEndian.toNat field < UInt32.size := by
    simpa [size] using LittleEndian.toNat_lt field
  rw [encodeSingle, UInt32.toNat_ofNat_of_lt' bound, ← size]
  exact LittleEndian.ofNat_toNat field

/-- Four bytes make a number, so no byte is lost when their count is a multiple of four. -/
theorem flatMap_encodeSingle_decodeSingles {count : Nat} {bytes : List UInt8}
    (size : bytes.length = 4 * count) :
    (decodeSingles bytes).flatMap encodeSingle = bytes ∧ (decodeSingles bytes).length = count := by
  induction count generalizing bytes with
  | zero =>
    have empty : bytes = [] := List.length_eq_zero_iff.mp (by omega)
    subst empty
    exact ⟨rfl, rfl⟩
  | succ count ih =>
    match bytes, size with
    | a :: b :: c :: d :: rest, size =>
      have tail : rest.length = 4 * count := by
        simp only [List.length_cons] at size
        omega
      obtain ⟨written, counted⟩ := ih tail
      refine ⟨?_, ?_⟩
      · rw [decodeSingles, List.flatMap_cons, encodeSingle_ofNat_toNat rfl, written]
        rfl
      · rw [decodeSingles, List.length_cons, counted]

/-! ## Decoders -/

namespace Decoder

variable {σ α β : Type}

theorem pure_eq_ok_iff {a b : α} {s t : σ} : (pure a : Decoder σ α) s = .ok (b, t) ↔ a = b ∧ s = t := by
  change Except.ok (a, s) = Except.ok (b, t) ↔ _
  rw [Except.ok.injEq, Prod.mk.injEq]

/-- A sequence succeeds if its second decoder succeeds on what the first one leaves. -/
theorem bind_eq_ok_iff {d : Decoder σ α} {f : α → Decoder σ β} {s t : σ} {b : β} :
    (d >>= f) s = .ok (b, t) ↔ ∃ a between, d s = .ok (a, between) ∧ f a between = .ok (b, t) := by
  change (d s >>= fun p => f p.1 p.2) = .ok (b, t) ↔ _
  cases d s with
  | error reason => exact ⟨nofun, nofun⟩
  | ok p =>
    constructor
    · intro continued
      exact ⟨p.1, p.2, rfl, continued⟩
    · rintro ⟨a, between, first, second⟩
      cases first
      exact second

/-- A check reads nothing. -/
theorem guard_eq_ok_iff {refuse : Prop} [Decidable refuse] {reason : Corruption}
    {d : Unit → Decoder σ α} {s t : σ} {a : α} :
    (if refuse then (throw reason : Decoder σ Unit) >>= d else d ()) s = .ok (a, t) ↔
      ¬ refuse ∧ d () s = .ok (a, t) := by
  by_cases refused : refuse
  · simp only [refused, if_true, not_true, false_and, iff_false]
    exact nofun
  · simp only [refused, if_false, not_false_eq_true, true_and]

theorem lift_eq_ok_iff {e : Except Corruption α} {s t : σ} {a : α} :
    (liftM e : Decoder σ α) s = .ok (a, t) ↔ e = .ok a ∧ s = t := by
  cases e with
  | error reason => exact ⟨nofun, nofun⟩
  | ok b =>
    change Except.ok (b, s) = Except.ok (a, t) ↔ _
    rw [Except.ok.injEq, Except.ok.injEq, Prod.mk.injEq]

end Decoder

/-! ## Parts of a profile -/

namespace ByteReader

variable {s rest : List UInt8}

/-- A field is the bytes in front, and the others are left. -/
theorem exactly_eq_ok_iff {n : Nat} {part : ProfilePart} {bytes : List UInt8} :
    ofList.exactly n part s = .ok (bytes, rest) ↔ bytes.length = n ∧ s = bytes ++ rest := by
  rw [exactly_ofList]
  by_cases enough : (s.take n).length = n
  · rw [if_pos enough, Except.ok.injEq, Prod.mk.injEq]
    constructor
    · rintro ⟨rfl, rfl⟩
      exact ⟨enough, (List.take_append_drop n s).symm⟩
    · rintro ⟨rfl, rfl⟩
      exact ⟨List.take_left, List.drop_left⟩
  · rw [if_neg enough]
    constructor
    · exact nofun
    · rintro ⟨rfl, rfl⟩
      exact absurd (congrArg List.length List.take_left) enough

theorem nat_eq_ok_iff {part : ProfilePart} {n : Nat} :
    ofList.nat part s = .ok (n, rest) ↔ n < UInt64.size ∧ s = encodeNat n ++ rest := by
  simp only [nat, Decoder.bind_eq_ok_iff, exactly_eq_ok_iff, Decoder.pure_eq_ok_iff]
  constructor
  · rintro ⟨field, between, ⟨size, rfl⟩, rfl, rfl⟩
    have bound := LittleEndian.toNat_lt field
    rw [size] at bound
    exact ⟨bound, by rw [encodeNat_toNat size]⟩
  · rintro ⟨bound, rfl⟩
    exact ⟨encodeNat n, rest, ⟨length_encodeNat n, rfl⟩, toNat_encodeNat bound, rfl⟩

theorem singles_eq_ok_iff {count : Nat} {part : ProfilePart} {xs : List Single} :
    ofList.singles count part s = .ok (xs, rest) ↔
      xs.length = count ∧ s = xs.flatMap encodeSingle ++ rest := by
  simp only [singles, Decoder.bind_eq_ok_iff, exactly_eq_ok_iff, Decoder.pure_eq_ok_iff]
  constructor
  · rintro ⟨payload, between, ⟨size, rfl⟩, rfl, rfl⟩
    obtain ⟨written, counted⟩ := flatMap_encodeSingle_decodeSingles size
    exact ⟨counted, by rw [written]⟩
  · rintro ⟨rfl, rfl⟩
    exact ⟨xs.flatMap encodeSingle, rest, ⟨length_flatMap_encodeSingle xs, rfl⟩,
      decodeSingles_flatMap_encodeSingle xs, rfl⟩

end ByteReader

structure EmbeddingVector.Readable (v : EmbeddingVector) : Prop where
  shape : v.rows.toNat * v.cols.toNat = v.values.length
  size : v.values.length ≤ maxVectorValues

instance (v : EmbeddingVector) : Decidable v.Readable :=
  decidable_of_iff
    (v.rows.toNat * v.cols.toNat = v.values.length ∧ v.values.length ≤ maxVectorValues)
    ⟨fun ⟨shape, size⟩ => ⟨shape, size⟩, fun readable => ⟨readable.shape, readable.size⟩⟩

namespace ByteReader

variable {s rest : List UInt8}

/-- The limit on the product of rows and columns is the one on the number of values. -/
theorem vector_eq_ok_iff {index : Nat} {v : EmbeddingVector} :
    ofList.vector index s = .ok (v, rest) ↔ v.Readable ∧ s = v.encode ++ rest := by
  simp only [vector, Decoder.bind_eq_ok_iff, nat_eq_ok_iff, Decoder.guard_eq_ok_iff,
    singles_eq_ok_iff, Decoder.pure_eq_ok_iff]
  constructor
  · rintro ⟨rows, _, ⟨rowsBound, rfl⟩, cols, _, ⟨colsBound, rfl⟩, fits, values, _,
      ⟨counted, rfl⟩, rfl, rfl⟩
    have rowsKept : (UInt64.ofNat rows).toNat = rows := UInt64.toNat_ofNat_of_lt' rowsBound
    have colsKept : (UInt64.ofNat cols).toNat = cols := UInt64.toNat_ofNat_of_lt' colsBound
    refine ⟨⟨?_, ?_⟩, ?_⟩
    · rw [rowsKept, colsKept, counted]
    · rw [counted]
      exact Nat.le_of_not_lt fits
    · simp only [EmbeddingVector.encode, rowsKept, colsKept, List.append_assoc]
  · rintro ⟨readable, rfl⟩
    refine ⟨v.rows.toNat, _, ⟨v.rows.toNat_lt, ?_⟩, v.cols.toNat, _, ⟨v.cols.toNat_lt, rfl⟩, ?_,
      v.values, rest, ⟨readable.shape.symm, rfl⟩, ?_, rfl⟩
    · simp only [EmbeddingVector.encode, List.append_assoc]
    · rw [readable.shape]
      exact Nat.not_lt.mpr readable.size
    · rw [UInt64.ofNat_toNat, UInt64.ofNat_toNat]

theorem vectors_eq_ok_iff {index count : Nat} {vs : List EmbeddingVector} :
    ofList.vectors index count s = .ok (vs, rest) ↔
      vs.length = count ∧ (∀ v ∈ vs, v.Readable) ∧ s = vs.flatMap EmbeddingVector.encode ++ rest := by
  -- the index only labels failures, but it grows from one vector to the next
  induction count generalizing index s rest vs with
  | zero =>
    rw [vectors, Decoder.pure_eq_ok_iff]
    constructor
    · rintro ⟨rfl, rfl⟩
      exact ⟨rfl, nofun, rfl⟩
    · rintro ⟨counted, -, rfl⟩
      have empty : vs = [] := List.length_eq_zero_iff.mp counted
      exact ⟨empty.symm, by rw [empty]; rfl⟩
  | succ count ih =>
    simp only [vectors, Decoder.bind_eq_ok_iff, vector_eq_ok_iff, ih, Decoder.pure_eq_ok_iff]
    constructor
    · rintro ⟨v, _, ⟨readable, rfl⟩, vs, _, ⟨rfl, allReadable, rfl⟩, rfl, rfl⟩
      refine ⟨rfl, List.forall_mem_cons.mpr ⟨readable, allReadable⟩, ?_⟩
      rw [List.flatMap_cons, List.append_assoc]
    · rintro ⟨counted, allReadable, rfl⟩
      match vs, counted with
      | v :: vs, counted =>
        obtain ⟨readable, othersReadable⟩ := List.forall_mem_cons.mp allReadable
        refine ⟨v, vs.flatMap EmbeddingVector.encode ++ rest, ⟨readable, ?_⟩, vs, rest,
          ⟨Nat.succ.inj counted, othersReadable, rfl⟩, rfl, rfl⟩
        rw [List.flatMap_cons, List.append_assoc]

end ByteReader

def GazeCoefficients.inTurn (c : GazeCoefficients) : List Single :=
  c.pairs.toList.flatMap fun (h, v) => [h, v]

theorem GazeCoefficients.flatMap_encodeSingle_inTurn (c : GazeCoefficients) :
    c.inTurn.flatMap encodeSingle = c.encode := by
  simp only [inTurn, encode, List.flatMap_assoc, List.flatMap_cons, List.flatMap_nil,
    List.append_nil]

theorem GazeCoefficients.exists_inTurn {values : List Single}
    (counted : values.length = 2 * Terms.count) : ∃ c : GazeCoefficients, values = c.inTurn := by
  match values, counted with
  | [h₁, v₁, h₂, v₂, h₃, v₃, h₄, v₄, h₅, v₅], _ =>
    exact ⟨⟨⟨h₁, h₂, h₃, h₄, h₅⟩, ⟨v₁, v₂, v₃, v₄, v₅⟩⟩, rfl⟩

namespace ByteReader

variable {s rest : List UInt8}

theorem pairUp_inTurn (c : GazeCoefficients) : pairUp c.inTurn = c.pairs.toList := rfl

theorem weights_eq_ok_iff {c : GazeCoefficients} :
    ofList.weights s = .ok (c, rest) ↔ s = c.encode ++ rest := by
  simp only [weights, Decoder.bind_eq_ok_iff, singles_eq_ok_iff]
  constructor
  · rintro ⟨values, between, ⟨counted, rfl⟩, paired⟩
    obtain ⟨d, rfl⟩ := GazeCoefficients.exists_inTurn counted
    rw [pairUp_inTurn, Terms.ofList?_toList, Decoder.pure_eq_ok_iff,
      GazeCoefficients.ofPairs_pairs] at paired
    obtain ⟨rfl, rfl⟩ := paired
    rw [GazeCoefficients.flatMap_encodeSingle_inTurn]
  · rintro rfl
    refine ⟨c.inTurn, rest, ⟨rfl, ?_⟩, ?_⟩
    · rw [GazeCoefficients.flatMap_encodeSingle_inTurn]
    · rw [pairUp_inTurn, Terms.ofList?_toList, Decoder.pure_eq_ok_iff]
      exact ⟨GazeCoefficients.ofPairs_pairs c, rfl⟩

/-- Where bytes are left, an optional word is read as any other. -/
theorem nat?_cons_eq_ok_iff {part : ProfilePart} {b : UInt8} {word : Option Nat} :
    ofList.nat? part (b :: s) = .ok (word, rest) ↔
      ∃ n, word = some n ∧ ofList.nat part (b :: s) = .ok (n, rest) := by
  simp only [nat, Decoder.bind_eq_ok_iff, exactly_eq_ok_iff, Decoder.pure_eq_ok_iff]
  rw [nat?_ofList, wordOrEnd, if_neg (List.cons_ne_nil b s)]
  by_cases early : (b :: s).length < 8
  -- some bytes are left but no eight of them, which is not the end
  · rw [if_pos early]
    constructor
    · intro read
      cases read
    · rintro ⟨n, rfl, field, between, ⟨size, split⟩, rfl, rfl⟩
      rw [split, List.length_append] at early
      omega
  · have enough : ((b :: s).take 8).length = 8 :=
      List.length_take_of_le (Nat.le_of_not_lt early)
    rw [if_neg early, Except.ok.injEq, Prod.mk.injEq]
    constructor
    · rintro ⟨rfl, rfl⟩
      exact ⟨_, rfl, _, _, ⟨enough, (List.take_append_drop 8 _).symm⟩, rfl, rfl⟩
    · rintro ⟨n, rfl, field, between, ⟨size, split⟩, rfl, rfl⟩
      rw [split, ← size]
      exact ⟨congrArg (some <| LittleEndian.toNat ·) List.take_left, List.drop_left⟩

/-- Nothing is read at the end of the bytes, and otherwise a whole word is. -/
theorem nat?_eq_ok_iff {part : ProfilePart} {word : Option Nat} :
    ofList.nat? part s = .ok (word, rest) ↔
      (s = [] ∧ word = none ∧ rest = []) ∨
        ∃ n, word = some n ∧ n < UInt64.size ∧ s = encodeNat n ++ rest := by
  cases s with
  | nil =>
    rw [nat?_ofList, wordOrEnd, if_pos rfl, Except.ok.injEq, Prod.mk.injEq]
    constructor
    · rintro ⟨rfl, rfl⟩
      exact .inl ⟨rfl, rfl, rfl⟩
    · rintro (⟨-, rfl, rfl⟩ | ⟨n, -, -, written⟩)
      · exact ⟨rfl, rfl⟩
      -- a word has eight bytes, and there are none
      · have size := congrArg List.length written
        rw [List.length_append, length_encodeNat, List.length_nil] at size
        omega
  | cons b s =>
    simp only [nat?_cons_eq_ok_iff, nat_eq_ok_iff, List.cons_ne_nil, false_and, false_or]

theorem decodeName_eq_ok_iff {bytes : List UInt8} {text : String} :
    decodeName bytes = .ok text ↔ bytes = Text.utf8 text := by
  rw [← Text.ofUtf8?_eq_some_iff, decodeName]
  cases Text.ofUtf8? bytes with
  | none => exact ⟨nofun, nofun⟩
  | some other => rw [Option.elim_some, Except.ok.injEq, Option.some.injEq]

/-- There is no name at the end of the bytes, and otherwise one that is not too long. -/
theorem name_eq_ok_iff {fallback text : String} :
    ofList.name fallback s = .ok (text, rest) ↔
      (s = [] ∧ text = fallback ∧ rest = []) ∨
        (Text.utf8 text).length ≤ maxNameBytes ∧ s = encodeName text ++ rest := by
  simp only [name, Decoder.bind_eq_ok_iff, nat?_eq_ok_iff]
  constructor
  · rintro ⟨word, between, ⟨rfl, rfl, rfl⟩ | ⟨length, rfl, -, rfl⟩, named⟩
    -- nothing is left, so there is no name
    · rw [Decoder.pure_eq_ok_iff] at named
      exact .inl ⟨rfl, named.1.symm, named.2.symm⟩
    · simp only [Decoder.guard_eq_ok_iff, Decoder.bind_eq_ok_iff, exactly_eq_ok_iff,
        Decoder.lift_eq_ok_iff, decodeName_eq_ok_iff] at named
      obtain ⟨short, bytes, _, ⟨rfl, rfl⟩, rfl, rfl⟩ := named
      refine .inr ⟨Nat.le_of_not_lt short, ?_⟩
      rw [encodeName, List.append_assoc]
  · rintro (⟨rfl, rfl, rfl⟩ | ⟨short, rfl⟩)
    · exact ⟨none, [], .inl ⟨rfl, rfl, rfl⟩, rfl⟩
    · have bound : (Text.utf8 text).length < UInt64.size := Nat.lt_of_le_of_lt short (by decide)
      refine ⟨some (Text.utf8 text).length, Text.utf8 text ++ rest,
        .inr ⟨_, rfl, bound, ?_⟩, ?_⟩
      · rw [encodeName, List.append_assoc]
      · simp only [Decoder.guard_eq_ok_iff, Decoder.bind_eq_ok_iff, exactly_eq_ok_iff,
          Decoder.lift_eq_ok_iff, decodeName_eq_ok_iff]
        exact ⟨Nat.not_lt.mpr short, Text.utf8 text, rest, ⟨rfl, rfl⟩, rfl, rfl⟩

end ByteReader

/-! ## Whole profiles -/

namespace Profile

structure BodyReadable (p : Profile) : Prop where
  count : p.embeddings.length ≤ maxVectors
  vectors : ∀ v ∈ p.embeddings, v.Readable

/-- A profile within the limits of what is read. -/
structure Readable (p : Profile) : Prop extends BodyReadable p where
  name : (Text.utf8 p.name).length ≤ maxNameBytes

/-- The bytes that are read as a profile are those that it is written as, followed by anything, or
those up to its name, if it has the name that a driver without one is given. -/
theorem decodeFrom_eq_ok_iff {slot : SlotId} {s rest : List UInt8} {p : Profile} :
    decodeFrom .ofList slot s = .ok (p, rest) ↔
      (p.BodyReadable ∧ s = p.encodeBody ∧ p.name = slot.driverName ∧ rest = []) ∨
        p.Readable ∧ s = p.encode ++ rest := by
  simp only [decodeFrom, Decoder.bind_eq_ok_iff, ByteReader.nat_eq_ok_iff,
    Decoder.guard_eq_ok_iff, ByteReader.vectors_eq_ok_iff, ByteReader.weights_eq_ok_iff,
    ByteReader.name_eq_ok_iff, Decoder.pure_eq_ok_iff]
  constructor
  · rintro ⟨count, _, ⟨-, rfl⟩, few, embeddings, _, ⟨rfl, readable, rfl⟩, weights, _, rfl, name,
      _, named, rfl, rfl⟩
    have body : BodyReadable ⟨name, embeddings, weights⟩ := ⟨Nat.le_of_not_lt few, readable⟩
    obtain ⟨rfl, rfl, rfl⟩ | ⟨short, rfl⟩ := named
    · refine .inl ⟨body, ?_, rfl, rfl⟩
      simp only [encodeBody, List.append_assoc, List.append_nil]
    · refine .inr ⟨⟨body, short⟩, ?_⟩
      simp only [encode, encodeBody, List.append_assoc]
  · intro written
    have parts : ∀ tail, p.encodeBody ++ tail = encodeNat p.embeddings.length ++
        (p.embeddings.flatMap EmbeddingVector.encode ++ (p.weights.encode ++ tail)) := by
      intro tail
      simp only [encodeBody, List.append_assoc]
    -- the limit on the vectors is far below what a word holds
    have bound {q : Profile} (body : q.BodyReadable) : q.embeddings.length < UInt64.size :=
      Nat.lt_of_le_of_lt body.count (by decide)
    obtain ⟨body, rfl, named, rfl⟩ | ⟨readable, rfl⟩ := written
    · refine ⟨_, _, ⟨bound body, ?_⟩, Nat.not_lt.mpr body.count, p.embeddings, _,
        ⟨rfl, body.vectors, rfl⟩, p.weights, [], rfl, p.name, [], .inl ⟨rfl, named, rfl⟩, rfl, rfl⟩
      rw [← parts, List.append_nil]
    · refine ⟨_, _, ⟨bound readable.toBodyReadable, ?_⟩, Nat.not_lt.mpr readable.count,
        p.embeddings, _, ⟨rfl, readable.vectors, rfl⟩, p.weights, _, rfl, p.name, rest,
        .inr ⟨readable.name, rfl⟩, rfl, rfl⟩
      rw [← parts, encode, List.append_assoc]

end Profile

end DriverMonitor
