import Axionvera.Foundation.InsertionMap

/-! The collector of metrics (`metrics/metricsCollector.ts`). The numbers are of any type that can
be added up, and the comparison of tag names is that of the host's locale.
-/

namespace Axionvera.Metrics

open Axionvera.Foundation

/-- `Record<string, string>`: the tags of a metric, as `Object.entries` lists them. -/
abbrev Tags := InsertionMap String String

/-- How the host's locale orders texts: `left.localeCompare(right) <= 0`. Different texts may be
neither before nor behind each other.
-/
structure Collation where
  atMost : String → String → Bool
  trans
    : ∀ first second third,
        atMost first second = true → atMost second third = true → atMost first third = true
  total : ∀ first second, (atMost first second || atMost second first) = true

/-- `MetricCounter`. -/
structure MetricCounter (ν : Type*) where
  name : String
  value : ν
  tags : Tags

/-- `MetricGauge`. -/
structure MetricGauge (ν : Type*) where
  name : String
  value : ν
  tags : Tags

/-- `MetricHistogram`. -/
structure MetricHistogram (ν : Type*) where
  name : String
  values : List ν
  tags : Tags
  buckets : List ν

/-- `MetricsSnapshot`. -/
structure MetricsSnapshot (ν : Type*) where
  timestamp : Nat
  counters : List (MetricCounter ν)
  gauges : List (MetricGauge ν)
  histograms : List (MetricHistogram ν)

/-- `MetricsCollector`. -/
structure MetricsCollector (ν : Type*) where
  counters : InsertionMap String (MetricCounter ν) := .empty
  gauges : InsertionMap String (MetricGauge ν) := .empty
  histograms : InsertionMap String (MetricHistogram ν) := .empty

variable {ν : Type*}

/-- `tagStr`: the tags, sorted by their names. -/
def tagText (collation : Collation) (tags : Tags) : String :=
  let sorted := tags.entries.mergeSort fun left right => collation.atMost left.1 right.1
  ",".intercalate (sorted.map fun entry => entry.1 ++ "=" ++ entry.2)

/-- `key`. -/
def key (collation : Collation) (name : String) (tags : Tags) : String :=
  if tagText collation tags = "" then name else name ++ "[" ++ tagText collation tags ++ "]"

namespace MetricsCollector

/-- `increment`. -/
def increment [Add ν] [NatCast ν] (collation : Collation) (collector : MetricsCollector ν)
    (name : String) (tags : Tags := .empty) (value : ν := (1 : Nat))
    : MetricsCollector ν :=
  let key := key collation name tags
  match collector.counters.get key with
  | some existing =>
      let increased := { existing with value := existing.value + value }
      { collector with counters := collector.counters.set key increased }
  | none => { collector with counters := collector.counters.set key ⟨name, value, tags⟩ }

/-- `gauge`. -/
def gauge (collation : Collation) (collector : MetricsCollector ν) (name : String) (value : ν)
    (tags : Tags := .empty)
    : MetricsCollector ν :=
  { collector with gauges := collector.gauges.set (key collation name tags) ⟨name, value, tags⟩ }

/-- The default of `observe`'s buckets. -/
def defaultBuckets [NatCast ν] : List ν :=
  [1, 5, 10, 50, 100, 500, 1000].map fun (bound : Nat) => (bound : ν)

/-- `observe`. -/
def observe [NatCast ν] (collation : Collation) (collector : MetricsCollector ν) (name : String)
    (value : ν) (tags : Tags := .empty) (buckets : List ν := defaultBuckets)
    : MetricsCollector ν :=
  let key := key collation name tags
  match collector.histograms.get key with
  | some existing =>
      let extended := { existing with values := existing.values ++ [value] }
      { collector with histograms := collector.histograms.set key extended }
  | none =>
      { collector with histograms := collector.histograms.set key ⟨name, [value], tags, buckets⟩ }

/-- `getCounter`. -/
def getCounter (collation : Collation) (collector : MetricsCollector ν) (name : String)
    (tags : Tags := .empty)
    : Option (MetricCounter ν) :=
  collector.counters.get (key collation name tags)

/-- `getGauge`. -/
def getGauge (collation : Collation) (collector : MetricsCollector ν) (name : String)
    (tags : Tags := .empty)
    : Option (MetricGauge ν) :=
  collector.gauges.get (key collation name tags)

/-- `snapshot`. -/
def snapshot (collector : MetricsCollector ν) (now : Nat) : MetricsSnapshot ν :=
  {
    timestamp := now
    counters := collector.counters.values
    gauges := collector.gauges.values
    histograms := collector.histograms.values
  }

end MetricsCollector

/-- The calls that record something. -/
inductive MetricCall (ν : Type*) where
  | increment (name : String) (tags : Tags) (value : ν)
  | gauge (name : String) (value : ν) (tags : Tags)
  | observe (name : String) (value : ν) (tags : Tags) (buckets : List ν)

/-- Perform a call. -/
def performCall [Add ν] [NatCast ν] (collation : Collation) (collector : MetricsCollector ν)
    : MetricCall ν → MetricsCollector ν
  | .increment name tags value => collector.increment collation name tags value
  | .gauge name value tags => collector.gauge collation name value tags
  | .observe name value tags buckets => collector.observe collation name value tags buckets

/-- The collector after the calls, which is empty at first. -/
def collect [Add ν] [NatCast ν] (collation : Collation) (calls : List (MetricCall ν))
    : MetricsCollector ν :=
  calls.foldl (performCall collation) {}

end Axionvera.Metrics
