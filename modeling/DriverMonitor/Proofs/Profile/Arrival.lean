import DriverMonitor.Identity.Profile.Delivery
import DriverMonitor.Proofs.Profile.Truncation

/-! # Profiles that arrive in pieces

From any reader a profile is read as if its bytes had come in one piece. What is at stake is the
length of the name, the one field that may be missing: `Profile.readFrom_eq_decode` says how it is
read wherever the pieces begin and end, and what becomes of a file that stops inside it.
-/

namespace DriverMonitor

open Number

namespace Profile

open Decoder

variable {p : Profile} {slot : SlotId}

/-- A file that ends inside the length of its name is refused. -/
theorem decode_of_begun_length (readable : p.BodyReadable) {begun : List UInt8}
    (some : begun ≠ []) (short : begun.length < 8) :
    decode slot (p.encodeBody ++ begun) =
      .error (.corruptProfile slot (.truncated .nameLength)) := by
  apply decode_of_decodeFrom_error
  rw [decodeFrom_eq, bind_of_ok (ByteReader.body_encodeBody_append readable begun)]
  exact bind_of_error (bind_of_error (ByteReader.nat?_of_short some short))

/-- Whatever the pieces are in which bytes arrive, they are read as the same profile, or refused for
the same reason, as in one piece. Of the word that may be missing there is nothing where no byte is
left, it is truncated where fewer than eight are, and otherwise it is read. So a file that stops
behind its weights is a profile without a name, and one that stops inside the length is corrupt. -/
theorem readFrom_eq_decode {σ : Type} (input : ByteReader σ) (slot : SlotId) (s : σ) :
    readFrom input slot s = decode slot (input.bytes s) ∧
      (∀ part, (input.nat? part s).map (fun (word, rest) => (word, input.bytes rest)) =
        if input.bytes s = [] then .ok (none, [])
        else if (input.bytes s).length < 8 then .error (.truncated part)
        else .ok (some (LittleEndian.toNat ((input.bytes s).take 8)), (input.bytes s).drop 8)) ∧
      ∀ p : Profile, p.BodyReadable → ∀ begun, input.bytes s = p.encodeBody ++ begun →
        begun.length < 8 → readFrom input slot s =
          if begun = [] then .ok { p with name := slot.driverName }
          else .error (.corruptProfile slot (.truncated .nameLength)) := by
  refine ⟨readFrom_eq input slot s, fun part => input.seesBytes_nat? part s, ?_⟩
  intro p readable begun arrives short
  rw [readFrom_eq, arrives]
  split
  next none => rw [none, List.append_nil, decode_encodeBody readable]
  next some => exact decode_of_begun_length readable some short

/-- Forty-eight bytes arrive in pieces, with an interruption between them, and are a profile without
a name; with four of the eight bytes behind them they are none. -/
theorem readFrom_eq_decode_begun_length :
    let body : Delivery :=
      [.bytes 0 (List.replicate 20 0), .interrupted, .bytes 0 (List.replicate 26 0)]
    let begun : Delivery := body ++ [.bytes 3 [0, 0], .interrupted, .interrupted, .bytes 0 []]
    readFrom Delivery.reader ⟨2⟩ body = .ok { name := "driver-2", embeddings := [] } ∧
      readFrom Delivery.reader ⟨2⟩ begun =
        .error (.corruptProfile ⟨2⟩ (.truncated .nameLength)) := by
  intro body begun
  let p : Profile := { name := "driver-2", embeddings := [] }
  have readable : p.BodyReadable := ⟨by decide, nofun⟩
  have named : { p with name := SlotId.driverName ⟨2⟩ } = p := by decide +kernel
  have ended := (readFrom_eq_decode Delivery.reader ⟨2⟩ body).2.2 p readable []
    (by decide +kernel) (by decide)
  rw [if_pos rfl, named] at ended
  exact ⟨ended, (readFrom_eq_decode Delivery.reader ⟨2⟩ begun).2.2 p readable [3, 0, 0, 0]
    (by decide +kernel) (by decide)⟩

end Profile

end DriverMonitor
