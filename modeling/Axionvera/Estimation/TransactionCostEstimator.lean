import Axionvera.Foundation.RoundedArithmetic

/-! The estimates of transaction costs (`estimation/estimator.ts`). All arithmetic is rounded, and
still a simulation that uses more of anything is never estimated to cost less.
-/

namespace Axionvera.Estimation

open Axionvera.Foundation

/-- `SimulationData`, as far as estimates read it. -/
structure SimulationData where
  simulatedInstructions : JsNumber
  simulatedMemory : JsNumber
  readKeysCount : JsNumber
  writeKeysCount : JsNumber
  isSuccess : Bool

/-- `ResourceConsumption`. -/
structure ResourceConsumption where
  cpuInstructions : JsNumber
  memoryBytes : JsNumber
  ledgerReads : JsNumber
  ledgerWrites : JsNumber
  deriving DecidableEq

/-- The values of `accuracyConfidence`. -/
inductive AccuracyConfidence where
  | low
  | medium
  | high
  deriving DecidableEq, Repr

/-- `CostReport`. -/
structure CostReport where
  baseFee : String
  resourceFee : String
  totalEstimatedFee : String
  consumption : ResourceConsumption
  accuracyConfidence : AccuracyConfidence
  deriving DecidableEq

/-- `STROOPS_PER_INSTRUCTION`. -/
def stroopsPerInstruction : JsNumber := nearestNumber (1 / 100)

/-- `STROOPS_PER_BYTE`. -/
def stroopsPerByte : JsNumber := .finite (1 / 2)

/-- `STROOPS_PER_READ`. -/
def stroopsPerRead : JsNumber := .finite 1000

/-- `STROOPS_PER_WRITE`. -/
def stroopsPerWrite : JsNumber := .finite 5000

/-- `BASE_TX_FEE`. -/
def baseTxFee : JsNumber := .finite 100

/-- The buffer for instructions. -/
def instructionBuffer : JsNumber := nearestNumber (115 / 100)

/-- The buffer for memory. -/
def memoryBuffer : JsNumber := nearestNumber (110 / 100)

/-- The consumption that `calculateUsage` computes. -/
def consumptionOf (simulation : SimulationData) : ResourceConsumption :=
  {
    cpuInstructions := (simulation.simulatedInstructions.roundedMul instructionBuffer).ceil
    memoryBytes := (simulation.simulatedMemory.roundedMul memoryBuffer).ceil
    ledgerReads := simulation.readKeysCount
    ledgerWrites := simulation.writeKeysCount
  }

/-- `dynamicResourceFee`. -/
def dynamicResourceFee (consumption : ResourceConsumption) : JsNumber :=
  let cpuFee := consumption.cpuInstructions.roundedMul stroopsPerInstruction
  let memFee := consumption.memoryBytes.roundedMul stroopsPerByte
  let readFee := consumption.ledgerReads.roundedMul stroopsPerRead
  let writeFee := consumption.ledgerWrites.roundedMul stroopsPerWrite
  (((cpuFee.roundedAdd memFee).roundedAdd readFee).roundedAdd writeFee).ceil

/-- `totalFee`. -/
def totalFee (consumption : ResourceConsumption) : JsNumber :=
  baseTxFee.roundedAdd (dynamicResourceFee consumption)

/-- `calculateUsage`, given how numbers are printed: the report, or the message of the error. -/
def calculateUsage (printed : JsNumber → String) (simulation : SimulationData)
    : Except String CostReport :=
  if simulation.isSuccess then
    let consumption := consumptionOf simulation
    .ok
      {
        baseFee := printed baseTxFee
        resourceFee := printed (dynamicResourceFee consumption)
        totalEstimatedFee := printed (totalFee consumption)
        consumption := consumption
        accuracyConfidence :=
          if consumption.cpuInstructions.isAbove 5000000 then .medium else .high
      }
  else .error "Cannot estimate costs for a failing transaction simulation."

/-- The constants that are no sums of powers of two are rounded. -/
theorem rounded_constants
    : stroopsPerInstruction = .finite (5764607523034235 / 2 ^ 59)
      ∧ instructionBuffer = .finite (5179139571476070 / 2 ^ 52)
      ∧ memoryBuffer = .finite (4953959590107546 / 2 ^ 52) := by
  decide +kernel

/-- (simulation.UsesAtMost more) requires the second simulation to use at least as much of
everything.
-/
structure SimulationData.UsesAtMost (simulation more : SimulationData) : Prop where
  instructions : simulation.simulatedInstructions.le more.simulatedInstructions
  memory : simulation.simulatedMemory.le more.simulatedMemory
  reads : simulation.readKeysCount.le more.readKeysCount
  writes : simulation.writeKeysCount.le more.writeKeysCount

/-- The counts of a simulation are not negative. -/
structure SimulationData.IsNonneg (simulation : SimulationData) : Prop where
  instructions : simulation.simulatedInstructions.IsNonneg
  memory : simulation.simulatedMemory.IsNonneg
  reads : simulation.readKeysCount.IsNonneg
  writes : simulation.writeKeysCount.IsNonneg

/-- A consumption is at most another in everything. -/
structure ResourceConsumption.AtMost (consumption more : ResourceConsumption) : Prop where
  instructions : consumption.cpuInstructions.le more.cpuInstructions
  memory : consumption.memoryBytes.le more.memoryBytes
  reads : consumption.ledgerReads.le more.ledgerReads
  writes : consumption.ledgerWrites.le more.ledgerWrites

/-- The numbers of a consumption are not negative. -/
structure ResourceConsumption.IsNonneg (consumption : ResourceConsumption) : Prop where
  instructions : consumption.cpuInstructions.IsNonneg
  memory : consumption.memoryBytes.IsNonneg
  reads : consumption.ledgerReads.IsNonneg
  writes : consumption.ledgerWrites.IsNonneg

/-- The buffers keep the order of simulations. -/
theorem consumptionOf_mono {simulation more : SimulationData} (nonneg : simulation.IsNonneg)
    (usesAtMost : simulation.UsesAtMost more)
    : (consumptionOf simulation).IsNonneg
      ∧ (consumptionOf simulation).AtMost (consumptionOf more) := by
  obtain ⟨_, isInstructionBuffer, isMemoryBuffer⟩ := rounded_constants
  have factors : (0 : ℚ) < 5179139571476070 / 2 ^ 52 ∧ (0 : ℚ) < 4953959590107546 / 2 ^ 52 := by
    norm_num
  obtain ⟨instructionsNonneg, instructionsLe⟩ :=
    JsNumber.roundedMul_mono factors.1 nonneg.instructions usesAtMost.instructions
  obtain ⟨memoryNonneg, memoryLe⟩ :=
    JsNumber.roundedMul_mono factors.2 nonneg.memory usesAtMost.memory
  unfold consumptionOf
  rw [isInstructionBuffer, isMemoryBuffer]
  exact ⟨⟨instructionsNonneg.ceil, memoryNonneg.ceil, nonneg.reads, nonneg.writes⟩,
    JsNumber.ceil_mono instructionsLe, JsNumber.ceil_mono memoryLe, usesAtMost.reads,
    usesAtMost.writes⟩

/-- The buffers never take anything away. -/
theorem consumptionOf_covers {simulation : SimulationData} (nonneg : simulation.IsNonneg)
    (instructions : simulation.simulatedInstructions.IsDouble)
    (memory : simulation.simulatedMemory.IsDouble)
    : simulation.simulatedInstructions.le (consumptionOf simulation).cpuInstructions
      ∧ simulation.simulatedMemory.le (consumptionOf simulation).memoryBytes := by
  obtain ⟨_, isInstructionBuffer, isMemoryBuffer⟩ := rounded_constants
  have factors : (1 : ℚ) ≤ 5179139571476070 / 2 ^ 52 ∧ (1 : ℚ) ≤ 4953959590107546 / 2 ^ 52 := by
    norm_num
  have more := JsNumber.le_roundedMul factors.1 instructions nonneg.instructions
  have memoryMore := JsNumber.le_roundedMul factors.2 memory nonneg.memory
  unfold consumptionOf
  rw [isInstructionBuffer, isMemoryBuffer]
  exact ⟨JsNumber.le_trans more (JsNumber.le_ceil (nonneg.instructions.of_le more).ne_nan),
    JsNumber.le_trans memoryMore (JsNumber.le_ceil (nonneg.memory.of_le memoryMore).ne_nan)⟩

/-- Fees keep the order of consumptions. -/
theorem dynamicResourceFee_mono {consumption more : ResourceConsumption}
    (nonneg : consumption.IsNonneg) (atMost : consumption.AtMost more)
    : (dynamicResourceFee consumption).IsNonneg
      ∧ (dynamicResourceFee consumption).le (dynamicResourceFee more) := by
  have factors : (0 : ℚ) < 5764607523034235 / 2 ^ 59 ∧ (0 : ℚ) < 1 / 2 := by norm_num
  obtain ⟨cpuNonneg, cpuLe⟩ :=
    JsNumber.roundedMul_mono factors.1 nonneg.instructions atMost.instructions
  obtain ⟨memNonneg, memLe⟩ := JsNumber.roundedMul_mono factors.2 nonneg.memory atMost.memory
  obtain ⟨readNonneg, readLe⟩ :=
    JsNumber.roundedMul_mono (by norm_num : (0 : ℚ) < 1000) nonneg.reads atMost.reads
  obtain ⟨writeNonneg, writeLe⟩ :=
    JsNumber.roundedMul_mono (by norm_num : (0 : ℚ) < 5000) nonneg.writes atMost.writes
  obtain ⟨firstNonneg, firstLe⟩ := JsNumber.roundedAdd_mono cpuNonneg memNonneg cpuLe memLe
  obtain ⟨secondNonneg, secondLe⟩ :=
    JsNumber.roundedAdd_mono firstNonneg readNonneg firstLe readLe
  obtain ⟨sumNonneg, sumLe⟩ := JsNumber.roundedAdd_mono secondNonneg writeNonneg secondLe writeLe
  unfold dynamicResourceFee
  rw [rounded_constants.1]
  exact ⟨sumNonneg.ceil, JsNumber.ceil_mono sumLe⟩

/-- So does the total, which is never below the base fee. -/
theorem totalFee_mono {consumption more : ResourceConsumption} (nonneg : consumption.IsNonneg)
    (atMost : consumption.AtMost more)
    : baseTxFee.le (totalFee consumption) ∧ (totalFee consumption).le (totalFee more) := by
  obtain ⟨feeNonneg, feeLe⟩ := dynamicResourceFee_mono nonneg atMost
  have baseNonneg : baseTxFee.IsNonneg := by
    show (0 : ℚ) ≤ 100
    norm_num
  have baseLe : baseTxFee.le baseTxFee := JsNumber.le_refl baseNonneg.ne_nan
  have zeroNonneg : (JsNumber.finite 0).IsNonneg := le_refl (0 : ℚ)
  have withoutFee : baseTxFee.roundedAdd (.finite 0) = baseTxFee := by
    have exact : nearestNumber ((100 : Int) : ℚ) = .finite ((100 : Int) : ℚ) :=
      nearestNumber_of_lt (by norm_num)
    simpa [baseTxFee, JsNumber.roundedAdd] using exact
  refine ⟨?_, (JsNumber.roundedAdd_mono baseNonneg feeNonneg baseLe feeLe).2⟩
  have least := (JsNumber.roundedAdd_mono baseNonneg zeroNonneg baseLe feeNonneg).2
  rwa [withoutFee] at least

/-- What is above a bound stays above it when it grows. -/
theorem isAbove_of_le {low high : JsNumber} {bound : Int} (isAbove : low.isAbove bound = true)
    (le : low.le high)
    : high.isAbove bound = true := by
  cases low <;> cases high
  case finite.finite low high =>
    have less : (bound : ℚ) < low := of_decide_eq_true isAbove
    exact decide_eq_true (less.trans_le le)
  all_goals
    revert isAbove le
    simp only [JsNumber.isAbove, JsNumber.le]
    grind

/-- The estimate of a simulation that succeeds covers what was simulated and the base fee, and a
simulation that uses at least as much of everything is not estimated to consume less, to cost less
or to be known better, whatever is rounded.
-/
theorem estimates_are_monotone (printed : JsNumber → String) {simulation more : SimulationData}
    (succeeds : simulation.isSuccess = true) (moreSucceeds : more.isSuccess = true)
    (nonneg : simulation.IsNonneg) (instructions : simulation.simulatedInstructions.IsDouble)
    (memory : simulation.simulatedMemory.IsDouble) (usesAtMost : simulation.UsesAtMost more)
    : ∃ report moreReport fee moreFee,
        calculateUsage printed simulation = .ok report
        ∧ calculateUsage printed more = .ok moreReport
        ∧ report.totalEstimatedFee = printed fee
        ∧ moreReport.totalEstimatedFee = printed moreFee
        ∧ baseTxFee.le fee
        ∧ fee.le moreFee
        ∧ simulation.simulatedInstructions.le report.consumption.cpuInstructions
        ∧ simulation.simulatedMemory.le report.consumption.memoryBytes
        ∧ report.consumption.AtMost moreReport.consumption
        ∧ (report.accuracyConfidence = .medium → moreReport.accuracyConfidence = .medium) := by
  obtain ⟨consumptionNonneg, atMost⟩ := consumptionOf_mono nonneg usesAtMost
  obtain ⟨base, fees⟩ := totalFee_mono consumptionNonneg atMost
  obtain ⟨coversInstructions, coversMemory⟩ := consumptionOf_covers nonneg instructions memory
  refine ⟨_, _, totalFee (consumptionOf simulation), totalFee (consumptionOf more),
    if_pos succeeds, if_pos moreSucceeds, rfl, rfl, base, fees, coversInstructions, coversMemory,
    atMost, ?_⟩
  dsimp only
  intro isMedium
  split at isMedium
  · rename_i isAbove
    rw [if_pos (isAbove_of_le isAbove atMost.instructions)]
  · cases isMedium

/-- A simulation that writes nothing. -/
def readingSimulation : SimulationData :=
  ⟨.finite 1000, .finite 512, .finite 2, .finite 0, true⟩

/-- The same simulation with a write. -/
def writingSimulation : SimulationData :=
  ⟨.finite 1000, .finite 512, .finite 2, .finite 1, true⟩

/-- The write is not estimated to cost less. -/
theorem estimates_are_monotone_write
    : ∃ report moreReport fee moreFee,
        calculateUsage (fun _ => "") readingSimulation = .ok report
        ∧ calculateUsage (fun _ => "") writingSimulation = .ok moreReport
        ∧ baseTxFee.le fee
        ∧ fee.le moreFee
        ∧ report.consumption.AtMost moreReport.consumption := by
  have nonneg : readingSimulation.IsNonneg := by
    constructor <;>
      · change (0 : ℚ) ≤ _
        norm_num
  have double (count : Int) (small : |count| < 2 ^ 53) : (JsNumber.finite count).IsDouble :=
    nearestNumber_of_lt small
  have usesAtMost : readingSimulation.UsesAtMost writingSimulation := by
    constructor <;>
      · change (_ : ℚ) ≤ _
        norm_num
  obtain ⟨report, moreReport, fee, moreFee, isReport, isMore, _, _, base, fees, _, _, atMost, _⟩ :=
    estimates_are_monotone (fun _ => "") rfl rfl nonneg (double 1000 (by norm_num))
      (double 512 (by norm_num)) usesAtMost
  exact ⟨report, moreReport, fee, moreFee, isReport, isMore, base, fees, atMost⟩

end Axionvera.Estimation
