import DriverMonitor.Proofs.Store.Contents

/-! # Reading back what was enrolled

A configuration bounds the length of embeddings far below what a stored vector may hold. But nothing
that comes before the write bounds the number of embeddings from above, or the length of the name,
while reading refuses more than `maxVectors` vectors and names beyond `maxNameBytes`. So an
enrollment can succeed for a driver who is then not read back, and `load_enroll_eq_ok_iff` says
exactly for whom.
-/

namespace DriverMonitor

theorem Config.validate_eq_ok_iff {c : Config} : c.validate = .ok () ↔ c.fault? = none := by
  rw [validate]
  cases c.fault? with
  | some fault => exact ⟨nofun, nofun⟩
  | none => exact ⟨fun _ => rfl, fun _ => rfl⟩

/-- A valid configuration asks for no embedding that is too long to be read back. -/
theorem Config.embeddingDim_le_of_validate {c : Config} (valid : c.validate = .ok ()) :
    c.identity.embeddingDim ≤ 4096 := by
  have faultless := validate_eq_ok_iff.mp valid
  by_cases bad : c.identity.embeddingDim = 0 ∨ 4096 < c.identity.embeddingDim
  · -- a bad length is a fault, whatever stands in front of it
    simp only [fault?, bad, if_true] at faultless
    grind
  · omega

namespace Store

theorem readable_column {e : Embedding} (short : e.length ≤ maxVectorValues) :
    (EmbeddingVector.column e).Readable := by
  have word : e.length < UInt64.size := Nat.lt_of_le_of_lt short (by decide)
  refine ⟨?_, short⟩
  change (UInt64.ofNat e.length).toNat * 1 = e.length
  rw [UInt64.toNat_ofNat_of_lt' word, Nat.mul_one]

variable {name : String} {embeddings : List Embedding} {weights : Option GazeCoefficients}

theorem vectors_readable (short : ∀ e ∈ embeddings, e.length ≤ maxVectorValues) :
    ∀ v ∈ (newcomer name embeddings weights).embeddings, v.Readable := by
  intro v stored
  obtain ⟨e, given, rfl⟩ := List.mem_map.mp stored
  exact readable_column (short e given)

/-- Only the number of samples and the name can be beyond the limits. -/
theorem readable_newcomer_iff (short : ∀ e ∈ embeddings, e.length ≤ maxVectorValues) :
    (newcomer name embeddings weights).Readable ↔
      embeddings.length ≤ maxVectors ∧ (Text.utf8 name).length ≤ maxNameBytes := by
  have counted : (newcomer name embeddings weights).embeddings.length = embeddings.length :=
    List.length_map _
  constructor
  · intro readable
    exact ⟨counted ▸ readable.count, readable.name⟩
  · rintro ⟨few, shortName⟩
    exact ⟨⟨counted.symm ▸ few, vectors_readable short⟩, shortName⟩

/-- Under a valid configuration an enrolled driver is loaded again, with one column for each
embedding, exactly if there are not too many of them and the name is not too long. Otherwise the
slot holds a corrupt profile, as long as the lengths fit in a word. -/
theorem load_enroll_eq_ok_iff {config : Config} (valid : config.validate = .ok ()) {s next : Store}
    {given : Option SlotId} {slot : SlotId} (name : String) (embeddings : List Embedding)
    (weights : Option GazeCoefficients)
    (enrolled : s.enroll (.ofConfig config) given name embeddings weights = .ok (slot, next)) :
    let column : Embedding → EmbeddingVector := fun e => ⟨.ofNat config.identity.embeddingDim, 1, e⟩
    let nameLength := (Text.utf8 name).length
    (next.load slot = .ok (some ⟨name, embeddings.map column, weights.getD .zero⟩) ↔
        embeddings.length ≤ maxVectors ∧ nameLength ≤ maxNameBytes) ∧
      (maxVectors < embeddings.length → embeddings.length < UInt64.size →
        next.load slot = .error (.corruptProfile slot (.tooManyVectors embeddings.length))) ∧
      (embeddings.length ≤ maxVectors → maxNameBytes < nameLength → nameLength < UInt64.size →
        next.load slot = .error (.corruptProfile slot (.nameTooLong nameLength))) := by
  intro column nameLength
  obtain ⟨accepted, -, saved⟩ := save_of_enroll enrolled
  obtain ⟨-, lengths⟩ := EnrollmentPolicy.check_eq_ok_iff.mp accepted
  -- a valid configuration has no dimension that a reader would refuse
  have short : ∀ e ∈ embeddings, e.length ≤ maxVectorValues := by
    intro e present
    rw [lengths e present]
    exact Nat.le_trans (Config.embeddingDim_le_of_validate valid) (by decide)
  have columns : embeddings.map column = embeddings.map .column := by
    refine List.map_congr_left fun e present => ?_
    have length : e.length = config.identity.embeddingDim := lengths e present
    rw [EmbeddingVector.column, length]
  have file : next.entry? slot = some (.file (newcomer name embeddings weights).encode) := by
    rw [entry?_save saved, if_pos rfl, newcomer]
  have counted : (newcomer name embeddings weights).embeddings.length = embeddings.length :=
    List.length_map _
  refine ⟨?_, ?_, ?_⟩
  · rw [columns]
    exact (load_eq_ok_some_iff file).trans (readable_newcomer_iff short)
  · intro many word
    rw [← counted] at many word ⊢
    rw [load_of_entry?_eq_file file, Profile.decode_encode_of_tooManyVectors many word]
    rfl
  · intro few long word
    -- all in front of the name is readable, so reading gets as far as its length
    have body : (newcomer name embeddings weights).BodyReadable :=
      ⟨counted.symm ▸ few, vectors_readable short⟩
    rw [load_of_entry?_eq_file file, Profile.decode_encode_of_nameTooLong body long word]
    rfl

/-- Enrollment accepts more samples than a profile can be read back with. -/
theorem load_enroll_too_many_samples :
    let config : Config := { identity := { minEnrollmentSamples := 1, embeddingDim := 1 } }
    let store : Store := { directory := some .empty, capacity := config.identity.slotCapacity }
    let samples : List Embedding := .replicate 1025 [.zero]
    config.validate = .ok () ∧
      ∃ next, store.enroll (.ofConfig config) none "Ana" samples none = .ok (⟨1⟩, next) ∧
        next.load ⟨1⟩ = .error (.corruptProfile ⟨1⟩ (.tooManyVectors 1025)) := by
  intro config store samples
  have valid : config.validate = .ok () := Config.validate_eq_ok_iff.mpr (by decide +kernel)
  have chosen : store.enrollmentSlot none = .ok ⟨1⟩ := enrollmentSlot_none_of_free (by decide)
  have count : samples.length = 1025 := by rw [List.length_replicate]
  have accepted : (EnrollmentPolicy.ofConfig config).check samples = .ok () := by
    refine EnrollmentPolicy.check_eq_ok_iff.mpr ⟨count ▸ by decide, fun e present => ?_⟩
    rw [List.eq_of_mem_replicate present]
    rfl
  have enrolled : store.enroll (.ofConfig config) none "Ana" samples none = .ok (⟨1⟩, _) :=
    enroll_of_slot accepted chosen
  refine ⟨valid, _, enrolled, ?_⟩
  have spec := load_enroll_eq_ok_iff valid "Ana" samples none enrolled
  rw [count] at spec
  exact spec.2.1 (by decide) (by decide)

end Store

end DriverMonitor
