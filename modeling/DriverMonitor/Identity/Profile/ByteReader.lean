/-! # Reading bytes

A file hands out its bytes in pieces. A single read may give fewer bytes than were asked for, or be
interrupted and have to be made again; it gives none only at the end. What a `ByteReader` promises
is that the pieces are the bytes that are still to come, in their order, and that it will not be
interrupted forever.

`ByteReader.fill` reads until it has as many bytes as it wants or nothing is left. The pieces are
gone from what it gives: `fill_fst` and `bytes_fill_snd` say that it splits the bytes in two.
-/

namespace DriverMonitor

/-- What a single read gives. -/
inductive Portion where
  | piece (bytes : List UInt8)
  /-- Nothing yet. -/
  | interrupted
  deriving DecidableEq, Repr

/-- Where bytes come from. -/
structure ByteReader (σ : Type) where
  /-- A single read, of at most so many bytes. -/
  read : Nat → σ → Portion × σ
  /-- The bytes that are still to come. -/
  bytes : σ → List UInt8
  /-- No more reads than these will be interrupted. -/
  interruptions : σ → Nat
  of_interrupted {n : Nat} {s t : σ} : read n s = (.interrupted, t) →
    bytes t = bytes s ∧ interruptions t < interruptions s
  of_piece {n : Nat} {s t : σ} {p : List UInt8} : read n s = (.piece p, t) →
    p.length ≤ n ∧ bytes s = p ++ bytes t ∧ interruptions t ≤ interruptions s
  of_empty {n : Nat} {s t : σ} : 0 < n → read n s = (.piece [], t) → bytes s = []

namespace ByteReader

/-- Hands out bytes that are all there. -/
def ofList : ByteReader (List UInt8) where
  read n bytes := (.piece (bytes.take n), bytes.drop n)
  bytes := id
  interruptions _ := 0
  of_interrupted := nofun
  of_piece := by
    rintro n s t p ⟨⟩
    exact ⟨List.length_take_le n s, (List.take_append_drop n s).symm, Nat.le_refl 0⟩
  of_empty := by
    intro n s t wanted empty
    have taken : s.take n = [] := Portion.piece.inj (congrArg Prod.fst empty)
    cases List.take_eq_nil_iff.mp taken with
    | inl none => omega
    | inr ended => exact ended

variable {σ : Type} (input : ByteReader σ)

/-- More reads than these cannot be made before the end. -/
def readsLeft (s : σ) : Nat := (input.bytes s).length + input.interruptions s

variable {input} {n : Nat} {s t : σ}

theorem readsLeft_lt_of_interrupted (read : input.read n s = (.interrupted, t)) :
    input.readsLeft t < input.readsLeft s := by
  obtain ⟨same, fewer⟩ := input.of_interrupted read
  rw [readsLeft, readsLeft, same]
  omega

theorem readsLeft_lt_of_piece {b : UInt8} {p : List UInt8}
    (read : input.read n s = (.piece (b :: p), t)) : input.readsLeft t < input.readsLeft s := by
  obtain ⟨-, split, notMore⟩ := input.of_piece read
  rw [readsLeft, readsLeft, split, List.length_append, List.length_cons]
  omega

variable (input)

/-- Reads until there are `n` bytes or nothing is left. -/
def fill (n : Nat) (s : σ) : List UInt8 × σ :=
  if n = 0 then ([], s)
  else
    match _ : input.read n s with
    | (.interrupted, t) => fill n t
    | (.piece [], t) => ([], t)
    | (.piece (b :: p), t) =>
      let (more, u) := fill (n - (b :: p).length) t
      (b :: p ++ more, u)
termination_by input.readsLeft s
decreasing_by
  · exact readsLeft_lt_of_interrupted ‹_›
  · exact readsLeft_lt_of_piece ‹_›

/-- What is handed out are the next bytes. -/
theorem fill_fst (n : Nat) (s : σ) : (input.fill n s).1 = (input.bytes s).take n := by
  fun_induction input.fill n s with
  | case1 => rfl
  | case2 n s wanted t read ih =>
    rw [ih, (input.of_interrupted read).1]
  | case3 n s wanted t read =>
    rw [input.of_empty (Nat.pos_of_ne_zero wanted) read, List.take_nil]
  | case4 n s wanted b p t read more u filled ih =>
    obtain ⟨fits, split, -⟩ := input.of_piece read
    rw [filled] at ih
    rw [split, List.take_append, List.take_of_length_le fits, ← ih]

/-- What is left are the bytes behind those. -/
theorem bytes_fill_snd (n : Nat) (s : σ) :
    input.bytes (input.fill n s).2 = (input.bytes s).drop n := by
  fun_induction input.fill n s with
  | case1 => rfl
  | case2 n s wanted t read ih =>
    rw [ih, (input.of_interrupted read).1]
  | case3 n s wanted t read =>
    have ended := input.of_empty (Nat.pos_of_ne_zero wanted) read
    obtain ⟨-, split, -⟩ := input.of_piece read
    rw [ended, List.drop_nil]
    exact split.symm.trans ended
  | case4 n s wanted b p t read more u filled ih =>
    obtain ⟨fits, split, -⟩ := input.of_piece read
    rw [filled] at ih
    rw [split, List.drop_append, List.drop_of_length_le fits, ← ih]
    rfl

theorem fill_ofList (n : Nat) (bytes : List UInt8) :
    ofList.fill n bytes = (bytes.take n, bytes.drop n) :=
  Prod.ext (ofList.fill_fst n bytes) (ofList.bytes_fill_snd n bytes)

end ByteReader

end DriverMonitor
