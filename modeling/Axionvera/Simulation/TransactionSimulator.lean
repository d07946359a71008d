import Axionvera.Foundation.BestIndex
import Axionvera.Foundation.ExactArithmetic
import Axionvera.Foundation.JsArithmetic
import Axionvera.Foundation.MixedValue

/-! The costs of simulated transactions (`transaction/transactionSimulator.ts`). Numbers are exact
fractions.
-/

namespace Axionvera.Simulation

open Axionvera.Foundation

/-- What is used of a transaction: its fee, an unsigned integer of 32 bits. -/
structure Transaction where
  amount : UInt32

/-- `transaction.fee`, a text. -/
def Transaction.fee (transaction : Transaction) : List Char :=
  Nat.toDigits 10 transaction.amount.toNat

/-- What a response says of an operation. -/
structure OperationResult where
  cpuInstructions : Option Nat := none
  memoryBytes : Option Nat := none

/-- A response for a transaction that succeeds. Its fee is decimal, as the library gives it. -/
structure SuccessResponse where
  results : Option (List OperationResult)
  minResourceFee : List Char
  isDecimal : isDigits minResourceFee = true

/-- What `simulateTransaction` returns. -/
inductive SimulationResponse where
  | success (response : SuccessResponse)
  | failure (error : String)

/-- `analysis`. -/
structure Analysis where
  cpuEfficiency : JsNumber
  memoryEfficiency : JsNumber
  feeEfficiency : JsNumber
  overallEfficiency : JsNumber

/-- `costBreakdown`. -/
structure CostBreakdown where
  baseFee : MixedValue
  resourceFee : MixedValue
  totalFee : MixedValue

/-- An entry of `perOperation`. -/
structure OperationUsage where
  operationIndex : Nat
  cpuInstructions : Nat
  memoryBytes : Nat
  fee : JsNumber

/-- `DetailedSimulationResult`. -/
structure DetailedSimulationResult where
  cpuInstructions : Nat
  memoryBytes : Nat
  recommendedFee : MixedValue
  success : Bool
  error : Option String
  analysis : Analysis
  suggestions : List String
  costBreakdown : CostBreakdown
  perOperation : List OperationUsage

/-- What is left of a hundred per cent when a part of the limit is used. -/
def efficiency (used : JsNumber) (limit : ℚ) : JsNumber :=
  let left := (JsNumber.finite 100).sub ((used.div (.finite limit)).times (.finite 100))
  (JsNumber.finite 0).max ((JsNumber.finite 100).min left)

/-- `calculateEfficiencyMetrics`. -/
def calculateEfficiencyMetrics (cpu memory : Nat) (baseFee resourceFee : MixedValue) : Analysis :=
  let cpuEfficiency := efficiency (.finite cpu) 1000000
  let memoryEfficiency := efficiency (.finite memory) 100000
  let feeEfficiency := efficiency (baseFee.add resourceFee).toNumber 1000000
  let overallEfficiency := ((cpuEfficiency.add memoryEfficiency).add feeEfficiency).div (.finite 3)
  { cpuEfficiency, memoryEfficiency, feeEfficiency, overallEfficiency }

/-- The CPU instructions of all operations. -/
def totalCpu (perOperation : List OperationUsage) : Nat :=
  (perOperation.map (·.cpuInstructions)).sum

/-- `generateOptimizationSuggestions`. -/
def generateOptimizationSuggestions (analysis : Analysis) (perOperation : List OperationUsage)
    : List String :=
  let isLow (efficiency : JsNumber) : Bool := efficiency.lt (.finite 50)
  let avgCpu := (JsNumber.finite (totalCpu perOperation)).div (.finite perOperation.length)
  let outliers :=
    perOperation.filter fun op => (avgCpu.times (.finite 2)).lt (.finite op.cpuInstructions)
  (if isLow analysis.cpuEfficiency then ["Consider optimizing CPU-intensive operations"] else [])
  ++ (if isLow analysis.memoryEfficiency then ["Consider reducing memory usage in operations"]
      else [])
  ++ (if isLow analysis.feeEfficiency then ["Consider reducing transaction fee"] else [])
  ++ (if 0 < outliers.length then
        [toString outliers.length ++ " operations use significantly more CPU than average"]
      else [])

/-- The operations of a response before their fees are known. -/
def operationsOf (response : SuccessResponse) : List OperationUsage :=
  (response.results.getD []).mapIdx fun index result =>
    {
      operationIndex := index
      cpuInstructions := result.cpuInstructions.getD 0
      memoryBytes := result.memoryBytes.getD 0
      fee := .finite 0
    }

/-- The fee of an operation: its part of the resource fee, rounded up. -/
def operationFee (cpuInstructions totalCpu : Nat) (resourceFee : MixedValue) : JsNumber :=
  (((JsNumber.finite cpuInstructions).div (.finite totalCpu)).times resourceFee.toNumber).ceil

/-- What is returned for a transaction that fails. -/
def failureResult (error : String) : DetailedSimulationResult where
  cpuInstructions := 0
  memoryBytes := 0
  recommendedFee := .whole 0
  success := false
  error := some error
  analysis :=
    {
      cpuEfficiency := .finite 0
      memoryEfficiency := .finite 0
      feeEfficiency := .finite 0
      overallEfficiency := .finite 0
    }
  suggestions := ["Fix simulation errors before optimization"]
  costBreakdown := { baseFee := .whole 0, resourceFee := .whole 0, totalFee := .whole 0 }
  perOperation := []

/-- What is returned for a transaction that succeeds. -/
def successResult (transaction : Transaction) (response : SuccessResponse)
    : DetailedSimulationResult :=
  let perOperation := operationsOf response
  let totalCpu := totalCpu perOperation
  let totalMemory := (perOperation.map (·.memoryBytes)).sum
  let resourceFee : MixedValue :=
    if response.minResourceFee = [] then .whole 0 else .text response.minResourceFee
  let baseFee := parseInt transaction.fee
  let analysis := calculateEfficiencyMetrics totalCpu totalMemory baseFee resourceFee
  let suggestions := generateOptimizationSuggestions analysis perOperation
  let costBreakdown := { baseFee, resourceFee, totalFee := baseFee.add resourceFee }
  {
    cpuInstructions := totalCpu
    memoryBytes := totalMemory
    recommendedFee := costBreakdown.totalFee
    success := true
    error := none
    analysis
    suggestions
    costBreakdown
    perOperation :=
      perOperation.map fun op =>
        { op with fee := operationFee op.cpuInstructions totalCpu resourceFee }
  }

/-- `detailedSimulation`, given the response of the simulation. -/
def detailedSimulation (transaction : Transaction)
    : SimulationResponse → DetailedSimulationResult
  | .success response => successResult transaction response
  | .failure error => failureResult error

/-- `comparison`. -/
structure Comparison where
  mostEfficient : Nat
  leastExpensive : Nat
  fastest : Nat
  recommendations : List String

/-- `generateComparativeRecommendations`. -/
def generateComparativeRecommendations (results : List DetailedSimulationResult) : List String :=
  if results.length < 2 then []
  else
    let sum :=
      results.foldl (fun (sum : MixedValue) result => sum.add result.recommendedFee) (.whole 0)
    let avgFee := sum.toNumber.div (.finite results.length)
    let expensiveTx :=
      results.filter fun result =>
        (avgFee.times (.finite (3 / 2))).lt result.recommendedFee.toNumber
    if 0 < expensiveTx.length then
      [toString expensiveTx.length
        ++ " transactions are significantly more expensive than average"]
    else []

/-- The result is more efficient than the other. -/
def isMoreEfficient (current best : DetailedSimulationResult) : Bool :=
  best.analysis.overallEfficiency.lt current.analysis.overallEfficiency

/-- The fee of the result is less than that of the other. -/
def isLessExpensive (current best : DetailedSimulationResult) : Bool :=
  current.recommendedFee.less best.recommendedFee

/-- The result takes less CPU than the other. -/
def isFaster (current best : DetailedSimulationResult) : Bool :=
  current.cpuInstructions < best.cpuInstructions

/-- `comparativeSimulation`, given the responses of the simulations. -/
def comparativeSimulation (simulated : List (Transaction × SimulationResponse))
    : List DetailedSimulationResult × Comparison :=
  let results := simulated.map fun (transaction, response) =>
    detailedSimulation transaction response
  (
    results,
    {
      mostEfficient := bestIndex isMoreEfficient results
      leastExpensive := bestIndex isLessExpensive results
      fastest := bestIndex isFaster results
      recommendations := generateComparativeRecommendations results
    }
  )

end Axionvera.Simulation
