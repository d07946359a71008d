import Axionvera.Errors
import Axionvera.Foundation.DecimalNumber

/-! Buffering the simulated fee and resources of a Soroban transaction
(`client/stellarClient.ts`).
-/

namespace Axionvera.Client.FeeBuffer

open Axionvera.Errors
open Axionvera.Foundation

/-- `toFraction`, for a multiplier given as the number it prints as. -/
def toFraction (multiplier : DecimalNumber) : Except AxionveraError (Nat × Nat) :=
  let decimalString :=
    if 'e' ∈ multiplier.toText then
      let stripped := ((multiplier.toFixed 12).reverse.dropWhile (· = '0')).reverse
      if stripped.getLast? = some '.' then stripped.dropLast else stripped
    else multiplier.toText
  let parts := decimalString.splitOn '.'
  let wholePart := parts[0]?.getD []
  let fractionalPart := parts[1]?.getD []
  if wholePart = [] || !wholePart.all Char.isDigit || !fractionalPart.all Char.isDigit then
    .error (newError .validationError "feeBufferMultiplier must be a valid decimal number")
  else
    let denominator := 10 ^ fractionalPart.length
    let numerator := parseDigits (wholePart ++ fractionalPart)
    .ok (numerator, if denominator = 0 then 1 else denominator)

/-- `multiplyAndCeil`. -/
def multiplyAndCeil (value : Int) (multiplier : DecimalNumber) : Except AxionveraError Nat :=
  if value < 0 then
    .error
      (newError .validationError "Cannot buffer a non-finite or negative resource value")
  else do
    let (numerator, denominator) ← toFraction multiplier
    return (value.toNat * numerator + (denominator - 1)) / denominator

/-- The resource bounds of a Soroban transaction. -/
structure SorobanResources where
  instructions : Nat
  diskReadBytes : Nat
  writeBytes : Nat
  deriving DecidableEq

/-- The Soroban data of a transaction, as far as it is buffered. -/
structure SorobanData where
  resources : SorobanResources
  resourceFee : Int
  deriving DecidableEq

/-- A transaction, with what buffering reads and what it must keep. -/
structure Transaction (ω : Type) where
  operations : List ω
  sequence : Int
  timeBounds : Option (Nat × Nat)
  fee : Nat
  networkPassphrase : String
  sorobanData : Option SorobanData
  deriving DecidableEq

/-- The options that `applyFeeBuffer` passes to `TransactionBuilder.cloneFrom`. -/
structure CloneOptions where
  fee : Nat
  networkPassphrase : String
  sorobanData : SorobanData

/-- A whole number that is not negative, of either of JavaScript's two types. -/
inductive Numeric where
  | number (value : Nat)
  | bigint (value : Nat)
  deriving DecidableEq

/-- The arguments of `setResources`. -/
structure ResourceAmounts where
  instructions : Numeric
  diskReadBytes : Numeric
  writeBytes : Numeric
  deriving DecidableEq

variable {ω ε : Type}

/-- The parts of stellar-sdk that rebuild Soroban data and transactions: a `SorobanDataBuilder`
with the resources and the resource fee that are set, up to its `build`, and `cloneFrom`.
-/
structure FeeSdk (ω ε : Type) where
  buildSorobanData : SorobanData → (amounts : ResourceAmounts) → (resourceFee : Nat)
    → Except ε SorobanData
  cloneFrom : Transaction ω → CloneOptions → Transaction ω

/-- One of the amounts is a `bigint`. -/
def ResourceAmounts.HasBigint (amounts : ResourceAmounts) : Prop :=
  ∃ value,
    amounts.instructions = .bigint value
    ∨ amounts.diskReadBytes = .bigint value
    ∨ amounts.writeBytes = .bigint value

/-- What stellar-sdk does here: the builder writes each resource as an XDR integer of 32 bits, for
which it takes a `number` in range and throws a `TypeError` at a `bigint`, and a clone keeps all
other fields and pays `fee` for each operation next to the resource fee.
-/
structure FeeSdk.Documented (sdk : FeeSdk ω ε) : Prop where
  takesNumbers
    : ∀ data (instructions diskReadBytes writeBytes resourceFee : Nat),
        instructions < 2 ^ 32
        → diskReadBytes < 2 ^ 32
        → writeBytes < 2 ^ 32
        → resourceFee < 2 ^ 63
        → sdk.buildSorobanData data
              ⟨.number instructions, .number diskReadBytes, .number writeBytes⟩ resourceFee
            = .ok ⟨⟨instructions, diskReadBytes, writeBytes⟩, resourceFee⟩
  rejectsBigints
    : ∀ data amounts resourceFee,
        amounts.HasBigint
        → ∃ error, sdk.buildSorobanData data amounts resourceFee = .error error
  operations : ∀ tx options, (sdk.cloneFrom tx options).operations = tx.operations
  sequence : ∀ tx options, (sdk.cloneFrom tx options).sequence = tx.sequence
  timeBounds : ∀ tx options, (sdk.cloneFrom tx options).timeBounds = tx.timeBounds
  sorobanData
    : ∀ tx options, (sdk.cloneFrom tx options).sorobanData = some options.sorobanData
  fee
    : ∀ tx options,
        (sdk.cloneFrom tx options).fee
          = options.fee * tx.operations.length + options.sorobanData.resourceFee.toNat

/-- The checks against `maxFeeLimit`. -/
def checkMaxFee (maxFeeLimit : Option Nat) (simulatedTotalFee bufferedTotalFee : Nat)
    : Except AxionveraError Unit :=
  match maxFeeLimit with
  | none => .ok ()
  | some limit =>
      if limit < simulatedTotalFee then
        .error
          (newError .validationError
            ("maxFeeLimit (" ++ toString limit ++ ") is below the simulated minimum fee ("
              ++ toString simulatedTotalFee ++ ")"))
      else if limit < bufferedTotalFee then
        .error
          (newError .validationError
            ("Buffered fee (" ++ toString bufferedTotalFee ++ ") exceeds maxFeeLimit ("
              ++ toString limit ++ ")"))
      else .ok ()

/-- What buffering throws: an error of its own, or what stellar-sdk throws. -/
inductive BufferError (ε : Type) where
  | own (error : AxionveraError)
  | sdk (error : ε)

/-- `applyFeeBuffer`. What `multiplyAndCeil` returns is a `bigint`, also for the resources. -/
def applyFeeBuffer (sdk : FeeSdk ω ε) (feeBufferMultiplier : DecimalNumber)
    (maxFeeLimit : Option Nat) (tx : Transaction ω)
    : Except (BufferError ε) (Transaction ω) :=
  match tx.sorobanData with
  | none => .ok tx
  | some sorobanData => do
      let simulatedResourceFee := sorobanData.resourceFee
      let simulatedTotalFee : Int := tx.fee
      let simulatedBaseFee :=
        if simulatedResourceFee < simulatedTotalFee then simulatedTotalFee - simulatedResourceFee
        else 0
      let bufferedResourceFee ←
        (multiplyAndCeil simulatedResourceFee feeBufferMultiplier).mapError .own
      let bufferedBaseFee ←
        (multiplyAndCeil simulatedBaseFee feeBufferMultiplier).mapError .own
      let bufferedTotalFee := bufferedBaseFee + bufferedResourceFee
      (checkMaxFee maxFeeLimit tx.fee bufferedTotalFee).mapError .own
      let resources := sorobanData.resources
      let instructions ←
        (multiplyAndCeil resources.instructions feeBufferMultiplier).mapError .own
      let diskReadBytes ←
        (multiplyAndCeil resources.diskReadBytes feeBufferMultiplier).mapError .own
      let writeBytes ← (multiplyAndCeil resources.writeBytes feeBufferMultiplier).mapError .own
      let bufferedSorobanData ←
        (sdk.buildSorobanData sorobanData
          ⟨.bigint instructions, .bigint diskReadBytes, .bigint writeBytes⟩
          bufferedResourceFee).mapError .sdk
      return sdk.cloneFrom tx
        {
          fee := bufferedBaseFee
          networkPassphrase := tx.networkPassphrase
          sorobanData := bufferedSorobanData
        }

/-- A multiplier from one up to `10 ^ 21` becomes a fraction that equals it. -/
theorem toFraction_value {multiplier : DecimalNumber} (atLeastOne : 1 ≤ multiplier.value)
    (small : multiplier.value < 10 ^ 21)
    : ∃ numerator denominator,
        toFraction multiplier = .ok (numerator, denominator)
        ∧ 0 < denominator
        ∧ multiplier.value = (numerator / denominator : ℚ) := by
  obtain ⟨whole, fraction, nonempty, text, value⟩ :=
    DecimalNumber.toText_plain atLeastOne small
  have noPoint (digits : List (Fin 10)) : '.' ∉ digits.map digitChar := by
    intro member
    obtain ⟨digit, _, same⟩ := List.mem_map.mp member
    exact (digitChar_isDigit digit).2.1 same
  have noExponent (digits : List (Fin 10)) : 'e' ∉ digits.map digitChar := by
    intro member
    obtain ⟨digit, _, same⟩ := List.mem_map.mp member
    exact (digitChar_isDigit digit).2.2 same
  have allDigits (digits : List (Fin 10)) : (digits.map digitChar).all Char.isDigit = true := by
    rw [List.all_map, List.all_eq_true]
    exact fun digit _ => (digitChar_isDigit digit).1
  have plain : 'e' ∉ multiplier.toText := by
    rw [text]
    split <;> simp [noExponent]
  -- The text is split at its point, or has no fraction at all.
  have parts : multiplier.toText.splitOn '.'
      = whole.map digitChar
        :: (if fraction = [] then [] else [fraction.map digitChar]) := by
    rw [text]
    split
    · rw [List.append_nil, List.splitOn_eq_singleton (noPoint whole)]
    · rw [List.splitOn_append_cons_self, List.splitOn_eq_singleton (noPoint whole),
        List.splitOn_eq_singleton (noPoint fraction), List.singleton_append]
  have second : (if fraction = [] then [] else [fraction.map digitChar])[0]?.getD []
      = fraction.map digitChar := by
    split
    · rename_i empty
      simp [empty]
    · rfl
  refine ⟨digitsValue (whole ++ fraction), 10 ^ fraction.length, ?_, by positivity,
    by exact_mod_cast value⟩
  simp only [toFraction, if_neg plain, parts, List.getElem?_cons_zero, List.getElem?_cons_succ,
    Option.getD_some, second, allDigits, List.length_map, ← List.map_append, parseDigits_map]
  simp [nonempty]

/-- Buffering rounds the exact product up. -/
theorem multiplyAndCeil_eq {multiplier : DecimalNumber} (atLeastOne : 1 ≤ multiplier.value)
    (small : multiplier.value < 10 ^ 21) {value : Int} (nonneg : 0 ≤ value)
    : multiplyAndCeil value multiplier = .ok ⌈multiplier.value * value⌉₊ := by
  obtain ⟨numerator, denominator, fraction, positive, exact⟩ :=
    toFraction_value atLeastOne small
  obtain ⟨amount, rfl⟩ := Int.eq_ofNat_of_zero_le nonneg
  have rounded := div_eq_ceil (amount * numerator) denominator positive
  have product : ((amount * numerator : Nat) / denominator : ℚ)
      = multiplier.value * ((amount : Int) : ℚ) := by
    rw [exact]
    push_cast
    ring
  rw [product] at rounded
  simp only [multiplyAndCeil, if_neg (not_lt.mpr nonneg), fraction, bind, Except.bind, pure,
    Except.pure, Int.toNat_natCast, rounded]

/-- The total fee after buffering: base and resource part are rounded up separately. The base
part is zero when the total does not exceed the resource fee.
-/
def bufferedTotalFee (multiplier : DecimalNumber) (totalFee : Nat) (resourceFee : Int) : Nat :=
  ⌈multiplier.value * ((totalFee : ℚ) - resourceFee)⌉₊ + ⌈multiplier.value * resourceFee⌉₊

/-- The buffered transaction pays enough, stays within the limit, is granted the exact scaled
resources, and keeps its operations, sequence and time bounds.
-/
structure Buffers (multiplier : DecimalNumber) (maxFeeLimit : Option Nat)
    (tx : Transaction ω) (data : SorobanData) (buffered : Transaction ω)
    : Prop where
  sufficient : tx.fee ≤ buffered.fee
  capped : ∀ limit, maxFeeLimit = some limit → buffered.fee ≤ limit
  scaled
    : ∃ bufferedData,
        buffered.sorobanData = some bufferedData
        ∧ bufferedData.resourceFee = ⌈multiplier.value * data.resourceFee⌉₊
        ∧ bufferedData.resources
          = ⟨
              ⌈multiplier.value * data.resources.instructions⌉₊,
              ⌈multiplier.value * data.resources.diskReadBytes⌉₊,
              ⌈multiplier.value * data.resources.writeBytes⌉₊
            ⟩
  operations : buffered.operations = tx.operations
  sequence : buffered.sequence = tx.sequence
  timeBounds : buffered.timeBounds = tx.timeBounds

/-- The limit is set and lies below the simulated or the buffered total. -/
def ExceedsLimit (multiplier : DecimalNumber) (maxFeeLimit : Option Nat) (tx : Transaction ω)
    (data : SorobanData)
    : Prop :=
  ∃ limit,
    maxFeeLimit = some limit
    ∧ (limit < tx.fee ∨ limit < bufferedTotalFee multiplier tx.fee data.resourceFee)

/-- Buffering returns a transaction within the bounds, and throws exactly for the limit. -/
structure RespectsBounds (multiplier : DecimalNumber) (maxFeeLimit : Option Nat)
    (tx : Transaction ω) (data : SorobanData)
    (outcome : Except (BufferError ε) (Transaction ω))
    : Prop where
  buffers
    : ∀ buffered, outcome = .ok buffered → Buffers multiplier maxFeeLimit tx data buffered
  throws : (∃ error, outcome = .error error) ↔ ExceedsLimit multiplier maxFeeLimit tx data

variable {multiplier : DecimalNumber}

/-- The simulated base fee is what the total exceeds the resource fee by. -/
theorem ceil_baseFee (positive : 0 ≤ multiplier.value) (totalFee : Nat) (resourceFee : Int)
    : ⌈multiplier.value
            * ((if resourceFee < totalFee then (totalFee : Int) - resourceFee else 0 : Int) : ℚ)⌉₊
      = ⌈multiplier.value * ((totalFee : ℚ) - resourceFee)⌉₊ := by
  split
  · push_cast
    rfl
  · rename_i notAbove
    have below : (totalFee : ℚ) - resourceFee ≤ 0 := by
      rw [sub_nonpos]
      exact_mod_cast not_lt.mp notAbove
    rw [Int.cast_zero, mul_zero, Nat.ceil_zero,
      Nat.ceil_eq_zero.mpr (mul_nonpos_of_nonneg_of_nonpos positive below)]

/-- The limit checks fail exactly when the limit lies below the simulated or the buffered
total.
-/
theorem checkMaxFee_cases (maxFeeLimit : Option Nat) (simulatedTotalFee bufferedTotalFee : Nat)
    : (checkMaxFee maxFeeLimit simulatedTotalFee bufferedTotalFee = .ok ()
          ∧ ∀ limit, maxFeeLimit = some limit
              → simulatedTotalFee ≤ limit ∧ bufferedTotalFee ≤ limit)
      ∨ ((∃ error, checkMaxFee maxFeeLimit simulatedTotalFee bufferedTotalFee = .error error)
          ∧ ∃ limit, maxFeeLimit = some limit
              ∧ (limit < simulatedTotalFee ∨ limit < bufferedTotalFee)) := by
  cases maxFeeLimit with
  | none => exact .inl ⟨rfl, by simp⟩
  | some limit =>
      unfold checkMaxFee
      by_cases belowSimulated : limit < simulatedTotalFee
      · exact .inr ⟨⟨_, if_pos belowSimulated⟩, limit, rfl, .inl belowSimulated⟩
      · by_cases belowBuffered : limit < bufferedTotalFee
        · simp only [if_neg belowSimulated, if_pos belowBuffered]
          exact .inr ⟨⟨_, rfl⟩, limit, rfl, .inr belowBuffered⟩
        · refine .inl ⟨by simp only [if_neg belowSimulated, if_neg belowBuffered], ?_⟩
          rintro _ ⟨⟩
          exact ⟨not_lt.mp belowSimulated, not_lt.mp belowBuffered⟩

/-- The amounts that the resources are set to: exact products, rounded up, as bigints. -/
def bufferedAmounts (multiplier : DecimalNumber) (resources : SorobanResources)
    : ResourceAmounts :=
  {
    instructions := .bigint ⌈multiplier.value * resources.instructions⌉₊
    diskReadBytes := .bigint ⌈multiplier.value * resources.diskReadBytes⌉₊
    writeBytes := .bigint ⌈multiplier.value * resources.writeBytes⌉₊
  }

/-- With a resource fee that is not negative and a limit that is high enough, buffering comes to
set the exact amounts, and fails exactly if that fails.
-/
theorem applyFeeBuffer_eq {sdk : FeeSdk ω ε} {maxFeeLimit : Option Nat} {tx : Transaction ω}
    {data : SorobanData} (atLeastOne : 1 ≤ multiplier.value)
    (small : multiplier.value < 10 ^ 21) (soroban : tx.sorobanData = some data)
    (nonneg : 0 ≤ data.resourceFee) (within : ¬ ExceedsLimit multiplier maxFeeLimit tx data)
    : applyFeeBuffer sdk multiplier maxFeeLimit tx
      = ((sdk.buildSorobanData data (bufferedAmounts multiplier data.resources)
            ⌈multiplier.value * data.resourceFee⌉₊).mapError .sdk).map
          fun built =>
            sdk.cloneFrom tx
              ⟨⌈multiplier.value * ((tx.fee : ℚ) - data.resourceFee)⌉₊, tx.networkPassphrase,
                built⟩ := by
  have positive : 0 ≤ multiplier.value := zero_le_one.trans atLeastOne
  have resourceFee := multiplyAndCeil_eq atLeastOne small nonneg
  have baseFee
      : multiplyAndCeil
            (if data.resourceFee < tx.fee then (tx.fee : Int) - data.resourceFee else 0)
            multiplier
        = .ok ⌈multiplier.value * ((tx.fee : ℚ) - data.resourceFee)⌉₊ := by
    rw [multiplyAndCeil_eq atLeastOne small (by split <;> omega), ceil_baseFee positive]
  have resource (amount : Nat)
      : multiplyAndCeil amount multiplier = .ok ⌈multiplier.value * amount⌉₊ := by
    rw [multiplyAndCeil_eq atLeastOne small (Int.natCast_nonneg amount), Int.cast_natCast]
  have passes
      : checkMaxFee maxFeeLimit tx.fee
            (⌈multiplier.value * ((tx.fee : ℚ) - data.resourceFee)⌉₊
              + ⌈multiplier.value * (data.resourceFee : ℚ)⌉₊)
        = .ok () :=
    ((checkMaxFee_cases maxFeeLimit tx.fee _).resolve_right
      fun exceeds => within exceeds.2).1
  unfold applyFeeBuffer bufferedAmounts
  simp only [soroban, resourceFee, baseFee, resource, passes, bind, Except.bind, pure,
    Except.pure, Except.mapError]
  generalize sdk.buildSorobanData data _ _ = built
  cases built <;> rfl

/-- What only goes on to fail fails. -/
theorem bind_throws {α β γ : Type} {first : Except α β} {next : β → Except α γ}
    (throws : ∀ value, ∃ error, next value = .error error)
    : ∃ error, (first >>= next) = .error error := by
  cases first with
  | error error => exact ⟨error, rfl⟩
  | ok value => exact throws value

/-- No Soroban transaction is buffered: its resources are set to bigints, if nothing fails
before.
-/
theorem applyFeeBuffer_throws {sdk : FeeSdk ω ε} (documented : sdk.Documented)
    (multiplier : DecimalNumber) (maxFeeLimit : Option Nat) {tx : Transaction ω}
    {data : SorobanData} (soroban : tx.sorobanData = some data)
    : ∃ error, applyFeeBuffer sdk multiplier maxFeeLimit tx = .error error := by
  unfold applyFeeBuffer
  rw [soroban]
  -- The fees, the limit and the three resources each may fail, or lead to the builder.
  refine bind_throws fun resourceFee => ?_
  refine bind_throws fun baseFee => ?_
  refine bind_throws fun _ => ?_
  refine bind_throws fun instructions => ?_
  refine bind_throws fun diskReadBytes => ?_
  refine bind_throws fun writeBytes => ?_
  obtain ⟨error, rejected⟩ :=
    documented.rejectsBigints data
      ⟨.bigint instructions, .bigint diskReadBytes, .bigint writeBytes⟩ resourceFee
      ⟨instructions, .inl rfl⟩
  rw [rejected]
  exact ⟨.sdk error, rfl⟩

/-- Buffering a Soroban transaction respects the bounds exactly if the limit lies below the
simulated or the buffered total, for then it is to throw. It throws in all other cases too: where
neither the multiplier nor the resource fee is at fault, what `setResources` is thrown by the
exact amounts.
-/
theorem applyFeeBuffer_respectsBounds_iff (sdk : FeeSdk ω ε) (documented : sdk.Documented)
    (multiplier : DecimalNumber) (atLeastOne : 1 ≤ multiplier.value)
    (maxFeeLimit : Option Nat) (tx : Transaction ω) (data : SorobanData)
    (soroban : tx.sorobanData = some data)
    : (RespectsBounds multiplier maxFeeLimit tx data
            (applyFeeBuffer sdk multiplier maxFeeLimit tx)
          ↔ ExceedsLimit multiplier maxFeeLimit tx data)
      ∧ (multiplier.value < 10 ^ 21
          → 0 ≤ data.resourceFee
          → ¬ ExceedsLimit multiplier maxFeeLimit tx data
          → ∃ error,
              sdk.buildSorobanData data (bufferedAmounts multiplier data.resources)
                  ⌈multiplier.value * data.resourceFee⌉₊
                = .error error
              ∧ applyFeeBuffer sdk multiplier maxFeeLimit tx = .error (.sdk error)) := by
  constructor
  · obtain ⟨error, throws⟩ := applyFeeBuffer_throws documented multiplier maxFeeLimit soroban
    constructor
    · intro respects
      exact respects.throws.mp ⟨error, throws⟩
    · intro exceeds
      exact {
        buffers := by
          intro buffered returned
          cases throws.symm.trans returned
        throws := iff_of_true ⟨error, throws⟩ exceeds
      }
  · intro small nonneg within
    obtain ⟨error, rejected⟩ :=
      documented.rejectsBigints data (bufferedAmounts multiplier data.resources)
        ⌈multiplier.value * data.resourceFee⌉₊ ⟨_, .inl rfl⟩
    refine ⟨error, rejected, ?_⟩
    rw [applyFeeBuffer_eq atLeastOne small soroban nonneg within, rejected]
    rfl

/-- stellar-sdk, with a builder that looks at the amounts and at the fee. -/
def exactSdk : FeeSdk Unit Unit :=
  {
    buildSorobanData := fun _ amounts resourceFee =>
      match amounts with
      | ⟨.number instructions, .number diskReadBytes, .number writeBytes⟩ =>
          if instructions < 2 ^ 32 ∧ diskReadBytes < 2 ^ 32 ∧ writeBytes < 2 ^ 32
              ∧ resourceFee < 2 ^ 63 then
            .ok ⟨⟨instructions, diskReadBytes, writeBytes⟩, resourceFee⟩
          else .error ()
      | _ => .error ()
    cloneFrom := fun tx options =>
      { tx with
        fee := options.fee * tx.operations.length + options.sorobanData.resourceFee.toNat
        networkPassphrase := options.networkPassphrase
        sorobanData := some options.sorobanData }
  }

/-- The functions behave as documented, by cases of the amounts for the builder. -/
theorem exactSdk_documented : exactSdk.Documented where
  takesNumbers := fun _ _ _ _ _ instructions diskReadBytes writeBytes resourceFee =>
    if_pos ⟨instructions, diskReadBytes, writeBytes, resourceFee⟩
  rejectsBigints := by
    rintro _ ⟨instructions, diskReadBytes, writeBytes⟩ _ ⟨value, isBigint⟩
    refine ⟨(), ?_⟩
    cases instructions <;> cases diskReadBytes <;> cases writeBytes <;> simp_all [exactSdk]
  operations := fun _ _ => rfl
  sequence := fun _ _ => rfl
  timeBounds := fun _ _ => rfl
  sorobanData := fun _ _ => rfl
  fee := fun _ _ => rfl

/-- A simulated transaction with a base fee of 100 and a resource fee of 2000 stroops. -/
def simulated : Transaction Unit :=
  {
    operations := [()]
    sequence := 7
    timeBounds := some (0, 60)
    fee := 2100
    networkPassphrase := "Test SDF Network ; September 2015"
    sorobanData := some ⟨⟨1000, 2000, 3000⟩, 2000⟩
  }

/-- The number 1.15. -/
def oneFifteen : DecimalNumber := ⟨[1, 1, 5], 1, ⟨1, rfl, by decide⟩, by decide⟩

/-- The digits 1, 1, 5 with the point behind the first. -/
theorem oneFifteen_value : oneFifteen.value = 115 / 100 := by
  have digits : digitsValue oneFifteen.digits = 115 := rfl
  rw [DecimalNumber.value, digits]
  norm_num [oneFifteen]

/-- Without any limit, the builder throws for the amounts 1150, 2300 and 3450. -/
theorem applyFeeBuffer_rejects
    : exactSdk.Documented
      ∧ applyFeeBuffer exactSdk oneFifteen none simulated = .error (.sdk ())
      ∧ ¬ RespectsBounds oneFifteen none simulated ⟨⟨1000, 2000, 3000⟩, 2000⟩
            (applyFeeBuffer exactSdk oneFifteen none simulated) := by
  have rejected
      : applyFeeBuffer exactSdk oneFifteen none simulated = .error (.sdk ()) := rfl
  refine ⟨exactSdk_documented, rejected, ?_⟩
  intro respects
  obtain ⟨limit, isLimit, _⟩ := respects.throws.mp ⟨_, rejected⟩
  cases isLimit

/-- The bounds at a multiplier of 1.15 and a limit that is high enough. -/
theorem applyFeeBuffer_respectsBounds_iff_oneFifteen
    : (RespectsBounds oneFifteen (some 3000) simulated ⟨⟨1000, 2000, 3000⟩, 2000⟩
            (applyFeeBuffer exactSdk oneFifteen (some 3000) simulated)
          ↔ ExceedsLimit oneFifteen (some 3000) simulated ⟨⟨1000, 2000, 3000⟩, 2000⟩)
      ∧ (oneFifteen.value < 10 ^ 21
          → (0 : Int) ≤ 2000
          → ¬ ExceedsLimit oneFifteen (some 3000) simulated ⟨⟨1000, 2000, 3000⟩, 2000⟩
          → ∃ error,
              exactSdk.buildSorobanData ⟨⟨1000, 2000, 3000⟩, 2000⟩
                  (bufferedAmounts oneFifteen ⟨1000, 2000, 3000⟩)
                  ⌈oneFifteen.value * (2000 : Int)⌉₊
                = .error error
              ∧ applyFeeBuffer exactSdk oneFifteen (some 3000) simulated
                = .error (.sdk error)) :=
  applyFeeBuffer_respectsBounds_iff exactSdk exactSdk_documented oneFifteen
    (by norm_num [oneFifteen_value]) (some 3000) simulated _ rfl

end Axionvera.Client.FeeBuffer
