import Sharding.Proofs.Key.Run

/-!
# Layout of keys

What the bits of a key say: the millisecond it was drawn at, the worker that drew it and the
sequence within the millisecond. The fields do not overlap, so keys of different workers differ.
The worker and the sequence can be read off any key that a run gives; the millisecond needs a
clock that a key has room for.
-/

set_option autoImplicit false

namespace Sharding

open scoped Word

/-! ## Bits of words -/

namespace Word

theorem toNat_shift {amount : Int64} {bits : Nat} (shifts : amount.toBitVec.smod 64 = bits)
    (small : bits < 64) : (amount.toBitVec.smod 64).toNat = bits := by
  rw [shifts]
  exact Nat.mod_eq_of_lt (Nat.lt_trans small (by decide))

theorem toInt_shiftRight {amount : Int64} (number : Int64) (bits : Nat)
    (shifts : amount.toBitVec.smod 64 = bits) (small : bits < 64) :
    (number >>> amount).toInt = number.toInt / 2 ^ bits := by
  rw [← Int64.toInt_toBitVec, Int64.toBitVec_shiftRight, BitVec.sshiftRight',
    BitVec.toInt_sshiftRight, toNat_shift shifts small, Int.shiftRight_eq_div_pow]
  rfl

theorem toNat_shiftLeft {amount : Int64} (number : Int64) (bits : Nat)
    (shifts : amount.toBitVec.smod 64 = bits) (small : bits < 64) :
    (number <<< amount).toBitVec.toNat =
      number.toBitVec.toNat * 2 ^ bits % 2 ^ (64 : Nat) := by
  rw [Int64.toBitVec_shiftLeft, BitVec.shiftLeft_eq', toNat_shift shifts small,
    BitVec.toNat_shiftLeft, Nat.shiftLeft_eq]

theorem toInt_and_mask {mask : Int64} (number : Int64) (bits : Nat)
    (ones : mask.toBitVec.toNat = 2 ^ bits - 1) (small : bits < 63) :
    (number &&& mask).toInt = number.toInt % 2 ^ bits := by
  have kept : (number &&& mask).toBitVec.toNat = number.toBitVec.toNat % 2 ^ bits := by
    rw [Int64.toBitVec_and, BitVec.toNat_and, ones, Nat.and_two_pow_sub_one_eq_mod]
  have bound : 2 ^ bits < 2 ^ (63 : Nat) := Nat.pow_lt_pow_right (by decide) small
  have below : number.toBitVec.toNat % 2 ^ bits < 2 ^ bits :=
    Nat.mod_lt _ (Nat.two_pow_pos bits)
  have divides : ((2 ^ bits : Nat) : Int) ∣ ((2 ^ (64 : Nat) : Nat) : Int) :=
    Int.natCast_dvd_natCast.mpr (Nat.pow_dvd_pow 2 (by omega))
  calc (number &&& mask).toInt
      = (number &&& mask).toBitVec.toNat := by
        rw [← Int64.toInt_toBitVec]
        exact BitVec.toInt_eq_toNat_of_lt (by omega)
    _ = (number.toBitVec.toNat : Int) % (2 ^ bits : Nat) := by rw [kept, Int.natCast_emod]
    _ = number.toInt % (2 ^ bits : Nat) := by
        rw [← Int64.toInt_toBitVec, BitVec.toInt_eq_toNat_bmod,
          ← Int.emod_emod_of_dvd _ divides, ← Int.emod_emod_of_dvd (Int.bmod _ _) divides,
          Int.bmod_emod]
    _ = number.toInt % 2 ^ bits := by rw [Int.natCast_pow]; rfl

theorem toNat_ofInt (value : Int) :
    ((Int64.ofInt value).toBitVec.toNat : Int) = value % 2 ^ (64 : Nat) := by
  rw [Int64.toBitVec_ofInt, BitVec.toNat_ofInt]
  exact Int.toNat_of_nonneg (Int.emod_nonneg _ (by decide))

theorem toNat_ofNat {value : Nat} (small : value < 2 ^ (64 : Nat)) :
    (Int64.ofNat value).toBitVec.toNat = value := by
  rw [Int64.toBitVec_ofNat', BitVec.toNat_ofNat, Nat.mod_eq_of_lt small]

end Word

namespace Snowflake

variable {generator : Snowflake}

/-! ## Fields of keys -/

theorem or_fields {worker sequence : Nat} (elapsed : Nat) (workerSmall : worker < 2 ^ (10 : Nat))
    (sequenceSmall : sequence < 2 ^ (12 : Nat)) :
    elapsed * 2 ^ (22 : Nat) ||| worker * 2 ^ (12 : Nat) ||| sequence =
      elapsed * 2 ^ (22 : Nat) + worker * 2 ^ (12 : Nat) + sequence := by
  have low : worker <<< (12 : Nat) + sequence < 2 ^ (22 : Nat) := by
    rw [Nat.shiftLeft_eq]
    omega
  rw [← Nat.shiftLeft_eq, ← Nat.shiftLeft_eq, Nat.or_assoc,
    ← Nat.shiftLeft_add_eq_or_of_lt sequenceSmall, ← Nat.shiftLeft_add_eq_or_of_lt low,
    Nat.add_assoc]

/-- A key is its fields side by side, so no field reaches into another one. -/
theorem keyOf_eq_or (millis : Clock) {sequence : Nat} (small : sequence < sequences) :
    generator.keyOf millis sequence =
      (millis - generator.epoch) <<< 22 ||| Int64.ofNat generator.worker <<< 12 |||
        Int64.ofNat sequence := by
  have workerBound := generator.worker_le
  unfold sequences at small
  have workerNat : (Int64.ofNat generator.worker).toBitVec.toNat = generator.worker :=
    Word.toNat_ofNat (by omega)
  have sequenceNat : (Int64.ofNat sequence).toBitVec.toNat = sequence :=
    Word.toNat_ofNat (by omega)
  have difference : millis - generator.epoch =
      Int64.ofInt (millis.toInt - generator.epoch.toInt) := by
    rw [Int64.ofInt_sub, Int64.ofInt_toInt, Int64.ofInt_toInt]
  have elapsedNat := Word.toNat_ofInt (millis.toInt - generator.epoch.toInt)
  have keyNat := Word.toNat_ofInt ((millis.toInt - generator.epoch.toInt) * 2 ^ (22 : Nat) +
    generator.worker * 2 ^ (12 : Nat) + sequence)
  refine Int64.toBitVec_inj.mp (BitVec.eq_of_toNat_eq ?_)
  rw [difference, keyOf, Int64.toBitVec_or, Int64.toBitVec_or, BitVec.toNat_or, BitVec.toNat_or,
    Word.toNat_shiftLeft _ 22 rfl (by decide),
    Word.toNat_shiftLeft _ 12 rfl (by decide), workerNat, sequenceNat]
  generalize (Int64.ofInt (millis.toInt - generator.epoch.toInt)).toBitVec.toNat = elapsed
    at elapsedNat
  have elapsedKept : elapsed * 2 ^ (22 : Nat) % 2 ^ (64 : Nat) =
      elapsed % 2 ^ (42 : Nat) * 2 ^ (22 : Nat) := by omega
  have workerKept : generator.worker * 2 ^ (12 : Nat) % 2 ^ (64 : Nat) =
      generator.worker * 2 ^ (12 : Nat) := Nat.mod_eq_of_lt (by omega)
  rw [elapsedKept, workerKept, or_fields _ (by omega) small]
  omega

theorem toInt_keyOf_eq_bmod (millis : Clock) (sequence : Nat) :
    (generator.keyOf millis sequence).toInt =
      (generator.exactKey millis sequence).bmod (2 ^ (64 : Nat)) :=
  Int64.toInt_ofInt

theorem toInt_worker_keyOf (millis : Clock) {sequence : Nat} (small : sequence < sequences) :
    ((generator.keyOf millis sequence >>> 12) &&& 1023).toInt = generator.worker := by
  have workerBound := generator.worker_le
  unfold sequences at small
  rw [Word.toInt_and_mask _ 10 rfl (by decide),
    Word.toInt_shiftRight _ 12 rfl (by decide), toInt_keyOf_eq_bmod, exactKey,
    Int.bmod_def]
  split <;> omega

theorem toInt_sequence_keyOf (millis : Clock) {sequence : Nat} (small : sequence < sequences) :
    (generator.keyOf millis sequence &&& 4095).toInt = sequence := by
  unfold sequences at small
  rw [Word.toInt_and_mask _ 12 rfl (by decide), toInt_keyOf_eq_bmod, exactKey,
    Int.bmod_def]
  split <;> omega

theorem toInt_millis_keyOf {millis : Clock} {sequence : Nat} (window : generator.InWindow millis)
    (small : sequence < sequences) :
    (generator.keyOf millis sequence >>> 22).toInt = millis.toInt - generator.epoch.toInt := by
  have workerBound := generator.worker_le
  rw [Word.toInt_shiftRight _ 22 rfl (by decide), (toInt_keyOf window small).1, exactKey]
  unfold sequences at small
  omega

/-! ## Keys of runs -/

theorem State.Valid.afterDraw {before : Snapshot} (valid : before.state.Valid generator) :
    (generator.afterDraw before).state.Valid generator := by
  unfold Snowflake.afterDraw
  split
  next drawn drew =>
    obtain ⟨now, _, rfl⟩ := draw_eq_ok_iff.mp drew
    exact valid.after now
  next => exact valid

theorem valid_of_mem_draws {steps : List Step} {start before : Snapshot}
    (valid : start.state.Valid generator) (member : before ∈ generator.draws start steps) :
    before.state.Valid generator := by
  induction steps generalizing start with
  | nil => cases member
  | cons step steps ih =>
      cases step with
      | clock change =>
          exact @ih { start with clock := start.clock.apply change } valid member
      | draw =>
          rcases List.mem_cons.mp member with rfl | later
          · exact valid
          · exact ih valid.afterDraw later

/-- Whatever a run draws is a key with the reading of the clock after the draw. -/
theorem draw_eq_keyOf {start : Clock} {steps : List Step} {before : Snapshot} {drawn : Draw}
    (member : before ∈ generator.draws { clock := start } steps)
    (drew : generator.draw before.state before.clock = .ok drawn) :
    drawn.key = generator.keyOf drawn.clock drawn.state.sequence ∧
      drawn.state.sequence < sequences := by
  have valid := valid_of_mem_draws (.initial generator) member
  obtain ⟨now, _, rfl⟩ := draw_eq_ok_iff.mp drew
  exact ⟨rfl, (valid.after now).sequence_lt⟩

theorem draw_of_mem_keys {start : Clock} {steps : List Step} {key : Int64}
    (member : key ∈ generator.keys start steps) :
    ∃ before ∈ generator.draws { clock := start } steps, ∃ drawn,
      generator.draw before.state before.clock = .ok drawn ∧ drawn.key = key := by
  obtain ⟨before, drawnFrom, found⟩ := List.mem_filterMap.mp member
  refine ⟨before, drawnFrom, ?_⟩
  unfold key? at found
  split at found
  next drawn drew => exact ⟨drawn, drew, Option.some.inj found⟩
  next => cases found

theorem worker_of_mem_keys {start : Clock} {steps : List Step} {key : Int64}
    (member : key ∈ generator.keys start steps) :
    ((key >>> 12) &&& 1023).toInt = generator.worker := by
  obtain ⟨before, drawnFrom, drawn, drew, rfl⟩ := draw_of_mem_keys member
  obtain ⟨key, small⟩ := draw_eq_keyOf drawnFrom drew
  rw [key, toInt_worker_keyOf _ small]

end Snowflake

/-- A key tells the millisecond, the worker and the sequence it was drawn with, whatever happened
to the generator and its clock before, and so no two workers ever draw the same key. Only the
millisecond and the sign need a reading of the clock that a key has room for. -/
theorem keys_tell_their_origin :
    (∀ (generator : Snowflake) (start : Clock) (steps : List Snowflake.Step),
      ∀ before ∈ generator.draws { clock := start } steps, ∀ drawn,
        generator.draw before.state before.clock = .ok drawn →
        drawn.key = (drawn.clock - generator.epoch) <<< 22 |||
          Int64.ofNat generator.worker <<< 12 ||| Int64.ofNat drawn.state.sequence ∧
        ((drawn.key >>> 12) &&& 1023).toInt = generator.worker ∧
        (drawn.key &&& 4095).toInt = drawn.state.sequence ∧ drawn.state.sequence ≤ 4095 ∧
        (generator.InWindow drawn.clock →
          (drawn.key >>> 22).toInt = drawn.clock.toInt - generator.epoch.toInt ∧
          0 ≤ drawn.key.toInt ∧ drawn.key.toInt < 2 ^ (63 : Nat))) ∧
    ∀ (left right : Snowflake), left.worker ≠ right.worker →
      ∀ (leftStart rightStart : Clock) (leftSteps rightSteps : List Snowflake.Step),
        ∀ key ∈ left.keys leftStart leftSteps, key ∉ right.keys rightStart rightSteps := by
  constructor
  · intro generator start steps before member drawn drew
    obtain ⟨key, small⟩ := Snowflake.draw_eq_keyOf member drew
    rw [key]
    refine ⟨Snowflake.keyOf_eq_or _ small, Snowflake.toInt_worker_keyOf _ small,
      Snowflake.toInt_sequence_keyOf _ small, Nat.le_of_lt_succ small, fun window => ?_⟩
    obtain ⟨exact, nonneg⟩ := Snowflake.toInt_keyOf window small
    exact ⟨Snowflake.toInt_millis_keyOf window small, exact ▸ nonneg, Int64.toInt_lt _⟩
  · intro left right different leftStart rightStart leftSteps rightSteps key onLeft onRight
    have leftWorker := Snowflake.worker_of_mem_keys onLeft
    rw [Snowflake.worker_of_mem_keys onRight] at leftWorker
    exact different (Int.natCast_inj.mp leftWorker.symm)

private def eastGenerator : Snowflake :=
  ⟨Snowflake.defaultEpoch, 6, 2, 10, by decide, by decide⟩

private def westGenerator : Snowflake :=
  ⟨Snowflake.defaultEpoch, 1023, 4095, 0, by decide, by decide⟩

/-- The second draw finds the clock set back and waits for it. -/
private def backSteps : List Snowflake.Step :=
  [.draw, .clock (.advance (-5)), .draw]

/-- The generator as the second draw finds it. -/
private def backSnapshot : Snowflake.Snapshot :=
  ⟨{ last := 1477958401000, nextOffset := 1 }, 1477958400995⟩

private def backDraw : Snowflake.Draw :=
  ⟨4194328577, ⟨1477958401000, 1, 1⟩, 1477958401000⟩

theorem east_keys_tell_their_origin :
    (backSnapshot ∈ eastGenerator.draws { clock := 1477958401000 } backSteps ∧
      eastGenerator.draw backSnapshot.state backSnapshot.clock = .ok backDraw ∧
      eastGenerator.InWindow backDraw.clock ∧ (backDraw.key >>> 22).toInt = 1000 ∧
      ((backDraw.key >>> 12) &&& 1023).toInt = 6 ∧ (backDraw.key &&& 4095).toInt = 1) ∧
    eastGenerator.worker ≠ westGenerator.worker ∧
    ∀ key ∈ eastGenerator.keys 1477958401000 backSteps,
      key ∉ westGenerator.keys 1477958401000 backSteps := by
  obtain ⟨origin, apart⟩ := keys_tell_their_origin
  have member : backSnapshot ∈ eastGenerator.draws { clock := 1477958401000 } backSteps :=
    List.mem_cons_of_mem _ (.head _)
  have drew : eastGenerator.draw backSnapshot.state backSnapshot.clock = .ok backDraw := by
    decide +kernel
  have window : eastGenerator.InWindow backDraw.clock := by decide +kernel
  have different : eastGenerator.worker ≠ westGenerator.worker := by decide
  obtain ⟨_, worker, sequence, _, told⟩ := origin _ _ _ _ member _ drew
  exact ⟨⟨member, drew, window, (told window).1, worker, sequence⟩, different,
    apart _ _ different _ _ _ _⟩

end Sharding
