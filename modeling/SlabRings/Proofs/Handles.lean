import SlabRings.Handle.Lemmas

/-!
# Handles there and back

Packing loses nothing: the fields that fit are read back from the handle, so no
two pairs of fields have a handle in common. Repacking loses little: whatever
the raw value, its fields pack again, to the same bits but for the marker and
the unused bit. The raw values that come back unchanged are the packed ones.
-/

namespace SlabRings.Handle

/-- The raw value with the marker set and the unused bit cleared. -/
def tidied (raw : BitVec 64) : BitVec 64 :=
  (raw ||| marker) &&& ~~~(BitVec.twoPow 64 63)

theorem getLsbD_tidied (raw : BitVec 64) {position : Nat} (inWord : position < 64) :
    (tidied raw).getLsbD position =
      (decide (position = 62) || (decide (position < 62) && raw.getLsbD position)) := by
  simp only [tidied, marker, markerBit, BitVec.getLsbD_and, BitVec.getLsbD_or, BitVec.getLsbD_not,
    BitVec.getLsbD_twoPow]
  rcases Nat.lt_trichotomy position 62 with below | rfl | above
  · have notMarker : 62 ≠ position := by omega
    have notUnused : 63 ≠ position := by omega
    simp [below, inWord, notMarker, notMarker.symm, notUnused]
  · simp
  · have unused : position = 63 := by omega
    subst unused
    simp

theorem tidied_eq_iff (raw : BitVec 64) :
    tidied raw = raw ↔ raw.getLsbD 63 = false ∧ raw.getLsbD 62 = true := by
  constructor
  · intro same
    rw [← same, getLsbD_tidied raw (by decide), getLsbD_tidied raw (by decide)]
    exact ⟨rfl, rfl⟩
  · intro ⟨unused, marked⟩
    apply BitVec.eq_of_getLsbD_eq
    intro position inWord
    rw [getLsbD_tidied raw inWord]
    rcases Nat.lt_trichotomy position 62 with below | rfl | above
    · simp [below, Nat.ne_of_lt below]
    · simp [marked]
    · have last : position = 63 := by omega
      subst last
      exact unused.symm

theorem repack_eq (raw : BitVec 64) : (Handle.mk raw).repack = .ok ⟨tidied raw⟩ := by
  refine pack_eq_ok_iff.mpr ⟨index_le_maxIndex _, ?_⟩
  have same : tidied raw = (ofFields (Handle.mk raw).index (Handle.mk raw).coordinate).raw := by
    apply BitVec.eq_of_getLsbD_eq
    intro position inWord
    rw [getLsbD_tidied raw inWord, getLsbD_ofFields_of_raw]
  rw [same]

theorem pack_eq_error_iff {index : Nat} {coordinate : UInt32} {fault : Fault} :
    pack index coordinate = .error fault ↔ maxIndex < index ∧ fault = .indexTooLarge := by
  by_cases fits : index ≤ maxIndex
  · simp [pack, fits, Nat.not_lt_of_le fits]
  · simp [pack, fits, Nat.lt_of_not_le fits, eq_comm]

/-- Fields that fit are packed without loss, and only those are packed. Any raw value repacks to
itself but for the marker and the unused bit. -/
theorem packing_round_trips :
    (∀ index coordinate, index ≤ maxIndex →
      ∃ handle, pack index coordinate = .ok handle ∧ handle.isSlab = true ∧
        handle.index = index ∧ handle.coordinate = coordinate ∧ ⟨handle.raw⟩ = handle) ∧
      (∀ index coordinate handle otherIndex otherCoordinate other,
        pack index coordinate = .ok handle → pack otherIndex otherCoordinate = .ok other →
          (index, coordinate) ≠ (otherIndex, otherCoordinate) → handle.raw ≠ other.raw) ∧
      (∀ index coordinate fault,
        pack index coordinate = .error fault ↔ maxIndex < index ∧ fault = .indexTooLarge) ∧
      ∀ raw, ∃ again, (Handle.mk raw).repack = .ok again ∧ again.raw = tidied raw ∧
        (again = ⟨raw⟩ ↔ raw.getLsbD 63 = false ∧ raw.getLsbD 62 = true) := by
  refine ⟨?_, ?_, fun _ _ _ => pack_eq_error_iff, ?_⟩
  · intro index coordinate fits
    have packed : pack index coordinate = .ok _ := pack_eq_ok_iff.mpr ⟨fits, rfl⟩
    rcases fields_of_pack packed with ⟨isSlab, sameIndex, sameCoordinate⟩
    exact ⟨_, packed, isSlab, sameIndex, sameCoordinate, rfl⟩
  · intro index coordinate handle otherIndex otherCoordinate other packed otherPacked different same
    rcases fields_of_pack packed with ⟨_, rfl, rfl⟩
    rcases fields_of_pack otherPacked with ⟨_, rfl, rfl⟩
    have handles : handle = other := congrArg Handle.mk same
    rw [handles] at different
    exact different rfl
  · intro raw
    refine ⟨⟨tidied raw⟩, repack_eq raw, rfl, ?_⟩
    rw [mk.injEq]
    exact tidied_eq_iff raw

theorem packing_round_trips_at_extremes :
    (∃ handle, pack maxIndex 0xffffffff = .ok handle ∧ handle.raw = 0x7fffffffffffffff#64 ∧
      handle.isSlab = true ∧ handle.index = maxIndex ∧ handle.coordinate = 0xffffffff ∧
      ∃ other, pack maxIndex 0 = .ok other ∧ handle.raw ≠ other.raw) ∧
      pack (maxIndex + 1) 0 = .error .indexTooLarge ∧
      ∃ again, (Handle.mk 0xffffffffffffffff#64).repack = .ok again ∧
        again.raw = 0x7fffffffffffffff#64 ∧ again ≠ ⟨0xffffffffffffffff#64⟩ := by
  rcases packing_round_trips with ⟨packs, apart, refused, repacks⟩
  refine ⟨?_, (refused _ _ _).mpr ⟨Nat.lt_succ_self _, rfl⟩, ?_⟩
  · rcases packs maxIndex 0xffffffff (Nat.le_refl _) with
      ⟨handle, packed, isSlab, index, coordinate, _⟩
    rcases packs maxIndex 0 (Nat.le_refl _) with ⟨other, otherPacked, _⟩
    have raw : handle = ⟨0x7fffffffffffffff#64⟩ := (pack_eq_ok_iff.mp packed).2.trans rfl
    have different := apart _ _ _ _ _ _ packed otherPacked (by decide)
    exact ⟨handle, packed, congrArg Handle.raw raw, isSlab, index, coordinate, other, otherPacked,
      different⟩
  · rcases repacks 0xffffffffffffffff#64 with ⟨again, repacked, tidy, unchanged⟩
    refine ⟨again, repacked, tidy.trans (by decide +kernel), ?_⟩
    rw [ne_eq, unchanged]
    decide

end SlabRings.Handle
