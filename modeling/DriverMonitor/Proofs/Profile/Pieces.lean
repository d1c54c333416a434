import DriverMonitor.Identity.Profile.Codec

/-! # Reading does not see the pieces

A profile may arrive in pieces of any size, with interruptions between them. A decoder `SeesBytes` if
it gives what another one reads off the bytes that are still to come, and leaves the bytes which that
one leaves. Sequences of such decoders are such decoders, so it is left to show this of the two that
ask a reader for anything: `ByteReader.exactly`, which fills its field in one go, and
`ByteReader.nat?`, which looks at every piece. For the second, `natFrom?_spec` is the invariant of its
loop: the bytes already read and those still to come are together the same at every read.
-/

namespace DriverMonitor

open Number

/-! ## Decoders that see only the bytes -/

namespace Decoder

variable {σ α β : Type} {input : ByteReader σ}

/-- A decoder reads off a reader what another one reads off the bytes that are still to come. -/
def SeesBytes (input : ByteReader σ) (d : Decoder σ α) (e : Decoder (List UInt8) α) : Prop :=
  ∀ s, (d s).map (Prod.map id input.bytes) = e (input.bytes s)

theorem seesBytes_pure (a : α) : SeesBytes input (pure a) (pure a) := fun _ => rfl

theorem seesBytes_throw (reason : Corruption) :
    SeesBytes input (throw reason : Decoder σ α) (throw reason) := fun _ => rfl

theorem seesBytes_lift (e : Except Corruption α) :
    SeesBytes input (liftM e : Decoder σ α) (liftM e) := by
  intro s
  cases e with
  | error reason => rfl
  | ok a => rfl

/-- The second decoder goes on with the bytes that the first one leaves, so it sees them as well. -/
theorem SeesBytes.bind {d : Decoder σ α} {e : Decoder (List UInt8) α} {f : α → Decoder σ β}
    {g : α → Decoder (List UInt8) β} (first : SeesBytes input d e)
    (second : ∀ a, SeesBytes input (f a) (g a)) : SeesBytes input (d >>= f) (e >>= g) := by
  intro s
  change ((d s) >>= fun p => f p.1 p.2).map _ = (e (input.bytes s)) >>= fun p => g p.1 p.2
  rw [← first s]
  cases d s with
  | error reason => rfl
  | ok p => exact second p.1 p.2

theorem SeesBytes.ite {condition : Prop} [Decidable condition] {d d' : Decoder σ α}
    {e e' : Decoder (List UInt8) α} (first : SeesBytes input d e)
    (second : SeesBytes input d' e') :
    SeesBytes input (if condition then d else d') (if condition then e else e') := by
  split
  · exact first
  · exact second

end Decoder

namespace ByteReader

open Decoder

variable {σ : Type} (input : ByteReader σ)

/-! ## Fields that have to be there -/

theorem exactly_ofList (n : Nat) (part : ProfilePart) (bytes : List UInt8) :
    ofList.exactly n part bytes =
      if (bytes.take n).length = n then .ok (bytes.take n, bytes.drop n)
      else .error (.truncated part) := by
  rw [exactly, fill_ofList]

/-- The pieces of a field are put together before anything is asked of them. -/
theorem seesBytes_exactly (n : Nat) (part : ProfilePart) :
    SeesBytes input (input.exactly n part) (ofList.exactly n part) := by
  intro s
  have bytes := input.fill_fst n s
  have left := input.bytes_fill_snd n s
  rw [exactly_ofList]
  simp only [exactly, bytes]
  split
  · exact congrArg (fun rest => Except.ok ((input.bytes s).take n, rest)) left
  · rfl

/-! ## A field that may be missing -/

def wordOrEnd (part : ProfilePart) : Decoder (List UInt8) (Option Nat) := fun bytes =>
  if bytes = [] then .ok (none, [])
  else if bytes.length < 8 then .error (.truncated part)
  else .ok (some (LittleEndian.toNat (bytes.take 8)), bytes.drop 8)

/-- The bytes already read and those still to come are together the same at every read. -/
theorem natFrom?_spec {part : ProfilePart} {filled : List UInt8} {s : σ}
    (fits : filled.length ≤ 8) :
    (input.natFrom? part filled s).map (Prod.map id input.bytes) =
      wordOrEnd part (filled ++ input.bytes s) := by
  fun_induction input.natFrom? part filled s with
  | case1 filled s missing t read ih => rw [ih fits, (input.of_interrupted read).1]
  | case2 s missing t read =>
    -- the end before the first byte of the field
    have ended := input.of_empty (by omega) read
    obtain ⟨-, split, -⟩ := input.of_piece read
    rw [ended] at split ⊢
    rw [List.nil_append] at split
    exact congrArg (fun rest => Except.ok (none, rest)) split.symm
  | case3 filled s missing t read begun =>
    have ended := input.of_empty (by omega) read
    rw [ended, List.append_nil, wordOrEnd, if_neg begun, if_pos missing]
    rfl
  | case4 filled s missing b p t read ih =>
    obtain ⟨few, split, -⟩ := input.of_piece read
    rw [ih (by rw [List.length_append]; omega), split, List.append_assoc]
  | case5 filled s full =>
    have size : filled.length = 8 := by omega
    have some : filled ++ input.bytes s ≠ [] := by
      intro none
      rw [(List.append_eq_nil_iff.mp none).1] at size
      cases size
    have enough : ¬ (filled ++ input.bytes s).length < 8 := by
      rw [List.length_append]
      omega
    rw [wordOrEnd, if_neg some, if_neg enough, ← size, List.take_left, List.drop_left]
    rfl

theorem seesBytes_nat? (part : ProfilePart) :
    SeesBytes input (input.nat? part) (wordOrEnd part) := fun _ =>
  input.natFrom?_spec (Nat.zero_le 8)

/-- To be all there is one of the ways in which bytes arrive. -/
theorem nat?_ofList (part : ProfilePart) : ofList.nat? part = wordOrEnd part := by
  funext bytes
  have read := ofList.seesBytes_nat? part bytes
  have kept : Prod.map id ofList.bytes = @id (Option Nat × List UInt8) := rfl
  rw [kept, Except.map_id] at read
  exact read

/-! ## Parts of a profile -/

theorem seesBytes_nat (part : ProfilePart) : SeesBytes input (input.nat part) (ofList.nat part) :=
  (input.seesBytes_exactly 8 part).bind fun _ => seesBytes_pure _

theorem seesBytes_singles (count : Nat) (part : ProfilePart) :
    SeesBytes input (input.singles count part) (ofList.singles count part) :=
  (input.seesBytes_exactly _ part).bind fun _ => seesBytes_pure _

theorem seesBytes_vector (index : Nat) :
    SeesBytes input (input.vector index) (ofList.vector index) := by
  apply (input.seesBytes_nat .vectorRows).bind
  intro rows
  apply (input.seesBytes_nat .vectorCols).bind
  intro cols
  have values := (input.seesBytes_singles (rows * cols) .vectorPayload).bind fun values =>
    seesBytes_pure (EmbeddingVector.mk (.ofNat rows) (.ofNat cols) values)
  exact ((seesBytes_throw _).bind fun _ => values).ite values

theorem seesBytes_vectors (index count : Nat) :
    SeesBytes input (input.vectors index count) (ofList.vectors index count) := by
  induction count generalizing index with
  | zero => exact seesBytes_pure _
  | succ count ih =>
    apply (input.seesBytes_vector index).bind
    intro v
    exact (ih (index + 1)).bind fun _ => seesBytes_pure _

theorem seesBytes_weights : SeesBytes input input.weights ofList.weights := by
  apply (input.seesBytes_singles _ _).bind
  intro values
  split
  · exact seesBytes_pure _
  · exact seesBytes_throw _

theorem seesBytes_name (fallback : String) :
    SeesBytes input (input.name fallback) (ofList.name fallback) := by
  have length := input.seesBytes_nat? .nameLength
  rw [← nat?_ofList] at length
  apply length.bind
  rintro (_ | length)
  · exact seesBytes_pure _
  · have text := (input.seesBytes_exactly length .name).bind fun bytes =>
      seesBytes_lift (decodeName bytes)
    exact ((seesBytes_throw _).bind fun _ => text).ite text

end ByteReader

/-! ## Whole profiles -/

namespace Profile

open Decoder

variable {σ : Type} (input : ByteReader σ)

theorem seesBytes_decodeFrom (slot : SlotId) :
    SeesBytes input (decodeFrom input slot) (decodeFrom .ofList slot) := by
  apply (input.seesBytes_nat .vectorCount).bind
  intro count
  have others := (input.seesBytes_vectors 0 count).bind fun embeddings =>
    input.seesBytes_weights.bind fun weights =>
      (input.seesBytes_name slot.driverName).bind fun name =>
        seesBytes_pure (Profile.mk name embeddings weights)
  exact ((seesBytes_throw _).bind fun _ => others).ite others

/-- From any reader, a profile is read as from its bytes. -/
theorem readFrom_eq (slot : SlotId) (s : σ) :
    readFrom input slot s = decode slot (input.bytes s) := by
  rw [decode, readFrom, readFrom, ← seesBytes_decodeFrom input slot s]
  cases decodeFrom input slot s with
  | error reason => rfl
  | ok read => rfl

end Profile

end DriverMonitor
