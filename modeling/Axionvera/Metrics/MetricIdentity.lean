import Axionvera.Foundation.KeyedCells
import Axionvera.Metrics.MetricsCollector

/-! When metrics are kept apart. A metric is its name with its tags in whatever order, and the
collector keeps the metrics by a text of these, which several of them can share.
-/

namespace Axionvera.Metrics

open Axionvera.Foundation

variable {ν : Type*}

/-- The kinds of metrics, which the collector keeps in different maps. -/
inductive MetricKind where
  | counter
  | gauge
  | histogram
  deriving DecidableEq, Repr

/-- Two names with their tags are the same metric. -/
def sameMetric (name : String) (tags : Tags) (otherName : String) (otherTags : Tags) : Prop :=
  name = otherName ∧ tags.entries.Perm otherTags.entries

/-- Whether they are can be computed. -/
instance (name : String) (tags : Tags) (otherName : String) (otherTags : Tags)
    : Decidable (sameMetric name tags otherName otherTags) :=
  inferInstanceAs (Decidable (_ ∧ _))

namespace MetricCall

/-- The kind of metric that a call records. -/
def kind : MetricCall ν → MetricKind
  | .increment _ _ _ => .counter
  | .gauge _ _ _ => .gauge
  | .observe _ _ _ _ => .histogram

/-- The name of the metric. -/
def name : MetricCall ν → String
  | .increment name _ _ | .gauge name _ _ | .observe name _ _ _ => name

/-- The tags of the metric. -/
def tags : MetricCall ν → Tags
  | .increment _ tags _ | .gauge _ _ tags | .observe _ _ tags _ => tags

/-- What is recorded. -/
def value : MetricCall ν → ν
  | .increment _ _ value | .gauge _ value _ | .observe _ value _ _ => value

/-- The buckets, which only histograms have. -/
def buckets : MetricCall ν → List ν
  | .increment _ _ _ | .gauge _ _ _ => []
  | .observe _ _ _ buckets => buckets

/-- A call on a metric of each kind. -/
def record (kind : MetricKind) (name : String) (tags : Tags) (value : ν) : MetricCall ν :=
  match kind with
  | .counter => .increment name tags value
  | .gauge => .gauge name value tags
  | .histogram => .observe name value tags []

end MetricCall

/-- The values that the calls record of a metric, in order. -/
def recorded (kind : MetricKind) (calls : List (MetricCall ν)) (name : String) (tags : Tags)
    : List ν :=
  (calls.filter fun call => call.kind = kind ∧ sameMetric call.name call.tags name tags).map
    MetricCall.value

/-- The sum of values in order, if there are any. -/
def total [Add ν] : List ν → Option ν
  | [] => none
  | first :: rest => some (rest.foldl (fun sum value => sum + value) first)

variable [Add ν] [NatCast ν]

/-- What the collector says of a metric after the calls is what they have recorded of it: the sum,
the last value, or all values in a histogram, which is the only one of this metric.
-/
def reportsRight (collation : Collation) (kind : MetricKind) (calls : List (MetricCall ν))
    (name : String) (tags : Tags)
    : Prop :=
  let collector := collect collation calls
  let values := recorded kind calls name tags
  match kind with
  | .counter => (collector.getCounter collation name tags).map MetricCounter.value = total values
  | .gauge => (collector.getGauge collation name tags).map MetricGauge.value = values.getLast?
  | .histogram =>
      ∀ now,
        ((collector.snapshot now).histograms.filter fun histogram =>
            sameMetric histogram.name histogram.tags name tags).map MetricHistogram.values
          = if values = [] then [] else [values]

/-- A metric has the key of another one exactly if it is the same. -/
def keptApart (collation : Collation) (name : String) (tags : Tags) (otherName : String)
    (otherTags : Tags)
    : Prop :=
  key collation name tags = key collation otherName otherTags
  ↔ sameMetric name tags otherName otherTags

-----------------------------------------------------------------------------------------
-- What is kept at a key
-----------------------------------------------------------------------------------------

/-- Where a call records something of a kind. -/
def keyOf (collation : Collation) (kind : MetricKind) (call : MetricCall ν) : Option String :=
  if call.kind = kind then some (key collation call.name call.tags) else none

/-- What a call makes of a counter. -/
def adjustCounter (call : MetricCall ν) : Option (MetricCounter ν) → MetricCounter ν
  | some existing => { existing with value := existing.value + call.value }
  | none => ⟨call.name, call.value, call.tags⟩

/-- What a call makes of a gauge, whatever was there. -/
def adjustGauge (call : MetricCall ν) (_ : Option (MetricGauge ν)) : MetricGauge ν :=
  ⟨call.name, call.value, call.tags⟩

/-- What a call makes of a histogram. -/
def adjustHistogram (call : MetricCall ν) : Option (MetricHistogram ν) → MetricHistogram ν
  | some existing => { existing with values := existing.values ++ [call.value] }
  | none => ⟨call.name, [call.value], call.tags, call.buckets⟩

/-- The counters after the calls, as a map that records are added to. -/
theorem counters_collect (collation : Collation) (calls : List (MetricCall ν))
    : (collect collation calls).counters
      = cells (keyOf collation .counter) adjustCounter calls := by
  refine (List.foldl_hom MetricsCollector.counters fun collector call => ?_).symm
  cases call with
  | increment name tags value =>
      simp only [performCall, MetricsCollector.increment]
      cases found : collector.counters.get (key collation name tags) <;>
        simp [addRecord, keyOf, InsertionMap.update, adjustCounter, MetricCall.kind,
          MetricCall.name, MetricCall.tags, MetricCall.value, found]
  | gauge name value tags => rfl
  | observe name value tags buckets =>
      simp only [performCall, MetricsCollector.observe]
      split <;> rfl

/-- The gauges after the calls, as a map that records are added to. -/
theorem gauges_collect (collation : Collation) (calls : List (MetricCall ν))
    : (collect collation calls).gauges = cells (keyOf collation .gauge) adjustGauge calls := by
  refine (List.foldl_hom MetricsCollector.gauges fun collector call => ?_).symm
  cases call with
  | increment name tags value =>
      simp only [performCall, MetricsCollector.increment]
      split <;> rfl
  | gauge name value tags => rfl
  | observe name value tags buckets =>
      simp only [performCall, MetricsCollector.observe]
      split <;> rfl

/-- The histograms after the calls, as a map that records are added to. -/
theorem histograms_collect (collation : Collation) (calls : List (MetricCall ν))
    : (collect collation calls).histograms
      = cells (keyOf collation .histogram) adjustHistogram calls := by
  refine (List.foldl_hom MetricsCollector.histograms fun collector call => ?_).symm
  cases call with
  | increment name tags value =>
      simp only [performCall, MetricsCollector.increment]
      split <;> rfl
  | gauge name value tags => rfl
  | observe name value tags buckets =>
      simp only [performCall, MetricsCollector.observe]
      cases found : collector.histograms.get (key collation name tags) <;>
        simp [addRecord, keyOf, InsertionMap.update, adjustHistogram, MetricCall.kind,
          MetricCall.name, MetricCall.tags, MetricCall.value, MetricCall.buckets, found]

omit [NatCast ν] in
/-- One more value is added to the sum of those before. -/
theorem total_concat (values : List ν) (value : ν)
    : total (values ++ [value]) = some ((total values).elim value (fun sum => sum + value)) := by
  cases values with
  | nil => rfl
  | cons first rest => simp [total]

/-- The values that the calls record at a key, in order. -/
def recordedAt (collation : Collation) (kind : MetricKind) (calls : List (MetricCall ν))
    (place : String)
    : List ν :=
  (calls.filter fun call => keyOf collation kind call = some place).map MetricCall.value

/-- At each key there is the sum of what was added there. -/
theorem map_value_counters (collation : Collation) (calls : List (MetricCall ν)) (place : String)
    : ((collect collation calls).counters.get place).map MetricCounter.value
      = total (recordedAt collation .counter calls place) := by
  rw [counters_collect, get_cells]
  refine map_foldl_adjust (fun calls => total (calls.map MetricCall.value)) rfl ?_ _
  intro calls call cell same
  rw [List.map_append, List.map_singleton, total_concat, same]
  cases cell <;> rfl

/-- At each key there is the last value that was set there. -/
theorem map_value_gauges (collation : Collation) (calls : List (MetricCall ν)) (place : String)
    : ((collect collation calls).gauges.get place).map MetricGauge.value
      = (recordedAt collation .gauge calls place).getLast? := by
  rw [gauges_collect, get_cells]
  refine map_foldl_adjust (fun calls => (calls.map MetricCall.value).getLast?) rfl ?_ _
  intro calls call cell _
  rw [List.map_append, List.map_singleton, List.getLast?_concat]
  rfl

/-- At each key there are all values that were observed there. -/
theorem map_values_histograms (collation : Collation) (calls : List (MetricCall ν))
    (place : String)
    : ((collect collation calls).histograms.get place).map MetricHistogram.values
      = if recordedAt collation .histogram calls place = [] then none
        else some (recordedAt collation .histogram calls place) := by
  rw [histograms_collect, get_cells]
  refine map_foldl_adjust
    (fun calls =>
      if calls.map MetricCall.value = [] then none else some (calls.map MetricCall.value))
    rfl ?_ _
  intro calls call cell same
  rw [List.map_append, List.map_singleton, if_neg (List.append_ne_nil_of_right_ne_nil _ (by simp))]
  cases cell with
  | none =>
      have noneBefore : calls.map MetricCall.value = [] := by
        by_contra some
        rw [if_neg some] at same
        cases same
      rw [noneBefore]
      rfl
  | some existing =>
      split_ifs at same
      · cases same
      · rw [Option.some.inj same]
        rfl

/-- A histogram has the name and the tags of a call that has observed something at its key, by
induction on these calls from their end.
-/
theorem exists_call_of_histogram {collation : Collation} {calls : List (MetricCall ν)}
    {place : String} {histogram : MetricHistogram ν}
    (found : (collect collation calls).histograms.get place = some histogram)
    : ∃ call ∈ calls, keyOf collation .histogram call = some place
      ∧ histogram.name = call.name ∧ histogram.tags = call.tags := by
  rw [histograms_collect, get_cells] at found
  have fromCall
      : ∀ relevant : List (MetricCall ν), ∀ histogram,
          relevant.foldl (fun cell call => some (adjustHistogram call cell)) none = some histogram
          → ∃ call ∈ relevant, histogram.name = call.name ∧ histogram.tags = call.tags := by
    intro relevant
    induction relevant using List.reverseRecOn with
    | nil => nofun
    | append_singleton relevant call ih =>
        intro histogram made
        rw [List.foldl_append] at made
        obtain rfl := Option.some.inj made
        cases before : relevant.foldl (fun cell call => some (adjustHistogram call cell)) none with
        | none => exact ⟨call, by simp, rfl, rfl⟩
        | some existing =>
            obtain ⟨first, member, same⟩ := ih existing before
            exact ⟨first, List.mem_append_left _ member, same⟩
  obtain ⟨call, member, same⟩ := fromCall _ histogram found
  obtain ⟨isCall, isHere⟩ := List.mem_filter.mp member
  exact ⟨call, isCall, of_decide_eq_true isHere, same⟩

-----------------------------------------------------------------------------------------
-- Metrics that are kept apart
-----------------------------------------------------------------------------------------

omit [Add ν] [NatCast ν] in
/-- If the calls of a kind are kept apart from a metric, those at its key are those on it. -/
theorem recordedAt_eq_recorded {collation : Collation} {kind : MetricKind}
    {calls : List (MetricCall ν)} {name : String} {tags : Tags}
    (apart
      : ∀ call ∈ calls, call.kind = kind → keptApart collation call.name call.tags name tags)
    : recordedAt collation kind calls (key collation name tags)
      = recorded kind calls name tags := by
  unfold recordedAt recorded
  congr 1
  refine List.filter_congr fun call member => decide_eq_decide.mpr ?_
  unfold keyOf
  split_ifs with isKind
  · rw [Option.some.injEq, and_iff_right isKind]
    exact apart call member isKind
  · exact iff_of_false nofun fun given => isKind given.1

/-- The histograms of a metric are the one at its key, if it is kept apart from all calls. -/
theorem filter_histograms_eq {collation : Collation} {calls : List (MetricCall ν)} {name : String}
    {tags : Tags}
    (apart
      : ∀ call ∈ calls, call.kind = .histogram → keptApart collation call.name call.tags name tags)
    : (collect collation calls).histograms.values.filter
          (fun histogram => sameMetric histogram.name histogram.tags name tags)
      = ((collect collation calls).histograms.get (key collation name tags)).toList := by
  have byKey
      : ∀ entry ∈ (collect collation calls).histograms.entries,
          decide (sameMetric entry.2.name entry.2.tags name tags)
            = decide (entry.1 = key collation name tags) := by
    intro entry member
    obtain ⟨call, isCall, isHere, sameName, sameTags⟩ :=
      exists_call_of_histogram (InsertionMap.get_eq_some_iff.mpr member)
    rw [keyOf, Option.ite_none_right_eq_some] at isHere
    rw [sameName, sameTags, decide_eq_decide, ← Option.some.inj isHere.2]
    exact (apart call isCall isHere.1).symm
  rw [InsertionMap.values, List.filter_map]
  change ((collect collation calls).histograms.entries.filter fun entry =>
    decide (sameMetric entry.2.name entry.2.tags name tags)).map Prod.snd = _
  rw [List.filter_congr byKey, InsertionMap.filter_entries_eq, List.map_map]
  exact List.map_id _

/-- What the collector says of a metric is right after calls that are kept apart from it. -/
theorem reportsRight_of_keptApart {collation : Collation} {kind : MetricKind}
    {calls : List (MetricCall ν)} {name : String} {tags : Tags}
    (apart
      : ∀ call ∈ calls, call.kind = kind → keptApart collation call.name call.tags name tags)
    : reportsRight collation kind calls name tags := by
  have sameValues := recordedAt_eq_recorded apart
  cases kind with
  | counter =>
      refine (map_value_counters collation calls (key collation name tags)).trans ?_
      rw [sameValues]
  | gauge =>
      refine (map_value_gauges collation calls (key collation name tags)).trans ?_
      rw [sameValues]
  | histogram =>
      intro now
      change List.map _ (List.filter _ (collect collation calls).histograms.values) = _
      have atKey := map_values_histograms collation calls (key collation name tags)
      rw [sameValues] at atKey
      rw [filter_histograms_eq apart, ← Option.toList_map, atKey]
      split_ifs <;> rfl

/-- A metric that another one is not kept apart from: they are different with one key, or one with
different keys.
-/
theorem not_keptApart_iff {collation : Collation} {name otherName : String} {tags otherTags : Tags}
    : ¬ keptApart collation otherName otherTags name tags
      ↔ (key collation otherName otherTags = key collation name tags
          ∧ ¬ sameMetric otherName otherTags name tags)
        ∨ (key collation otherName otherTags ≠ key collation name tags
            ∧ sameMetric otherName otherTags name tags) := by
  unfold keptApart
  tauto

omit [Add ν] [NatCast ν] in
/-- A call that is not kept apart from a metric is either only at its key or only on it. -/
theorem recordedAt_or_recorded {collation : Collation} (kind : MetricKind)
    {name otherName : String} {tags otherTags : Tags} (value : ν)
    (clash : ¬ keptApart collation otherName otherTags name tags)
    : (recordedAt collation kind [.record kind otherName otherTags value] (key collation name tags)
          = [value]
        ∧ recorded kind [.record kind otherName otherTags value] name tags = [])
      ∨ (recordedAt collation kind [.record kind otherName otherTags value]
            (key collation name tags) = []
          ∧ recorded kind [.record kind otherName otherTags value] name tags = [value]) := by
  rw [not_keptApart_iff] at clash
  refine clash.imp ?_ ?_ <;> rintro ⟨isKey, isSame⟩ <;>
    cases kind <;>
      simp [recordedAt, recorded, keyOf, MetricCall.record, MetricCall.kind, MetricCall.name,
        MetricCall.tags, MetricCall.value, isKey, isSame]

/-- Two histograms that are not kept apart are enough for a wrong answer about either. -/
theorem not_reportsRight_histogram {collation : Collation} {name otherName : String}
    {tags otherTags : Tags} (value : ν)
    (clash : ¬ keptApart collation otherName otherTags name tags)
    : ¬ reportsRight collation .histogram
          [.record .histogram otherName otherTags value, .record .histogram name tags value] name
          tags := by
  intro right
  have listed := right 0
  have self : sameMetric name tags name tags := ⟨rfl, .refl _⟩
  simp only [MetricsCollector.snapshot, histograms_collect, cells, addRecord, keyOf, recorded,
    InsertionMap.update, adjustHistogram, MetricCall.record, MetricCall.kind, MetricCall.name,
    MetricCall.tags, MetricCall.value, if_pos, List.foldl_cons, List.foldl_nil] at listed
  rw [not_keptApart_iff] at clash
  rcases clash with ⟨isKey, different⟩ | ⟨otherKey, same⟩
  -- The only histogram is one of the other metric.
  · simp [InsertionMap.values, InsertionMap.set, InsertionMap.keys, InsertionMap.get,
      InsertionMap.empty, isKey, different, self] at listed
  -- There are two histograms with one value each.
  · simp [InsertionMap.values, InsertionMap.set, InsertionMap.keys, InsertionMap.get,
      InsertionMap.empty, otherKey, otherKey.symm, same, self] at listed

/-- A metric that another one is not kept apart from is reported wrong after some calls on the two.
-/
theorem exists_not_reportsRight (kind : MetricKind) {collation : Collation}
    {name otherName : String} {tags otherTags : Tags}
    (clash : ¬ keptApart collation otherName otherTags name tags)
    : ∃ calls : List (MetricCall ν),
        (∀ call ∈ calls,
          call.name = otherName ∧ call.tags = otherTags ∨ call.name = name ∧ call.tags = tags)
        ∧ ¬ reportsRight collation kind calls name tags := by
  have wrong := recordedAt_or_recorded kind ((1 : Nat) : ν) clash
  cases kind with
  | counter =>
      refine ⟨[.record .counter otherName otherTags ((1 : Nat) : ν)], by simp [MetricCall.record,
        MetricCall.name, MetricCall.tags], fun right => ?_⟩
      have same := (map_value_counters collation _ (key collation name tags)).symm.trans right
      rcases wrong with ⟨atKey, onIt⟩ | ⟨atKey, onIt⟩ <;> rw [atKey, onIt] at same <;> cases same
  | gauge =>
      refine ⟨[.record .gauge otherName otherTags ((1 : Nat) : ν)], by simp [MetricCall.record,
        MetricCall.name, MetricCall.tags], fun right => ?_⟩
      have same := (map_value_gauges collation _ (key collation name tags)).symm.trans right
      rcases wrong with ⟨atKey, onIt⟩ | ⟨atKey, onIt⟩ <;> rw [atKey, onIt] at same <;> cases same
  | histogram =>
      exact ⟨_, by simp [MetricCall.record, MetricCall.name, MetricCall.tags],
        not_reportsRight_histogram ((1 : Nat) : ν) clash⟩

/-- Texts in the order of their characters. -/
def characterOrder : Collation :=
  {
    atMost := fun left right => left ≤ right
    trans := by
      intro first second third front back
      exact decide_eq_true (String.le_trans (of_decide_eq_true front) (of_decide_eq_true back))
    total := by
      intro first second
      rw [Bool.or_eq_true, decide_eq_true_eq, decide_eq_true_eq]
      exact String.le_total first second
  }

/-- The text of a single tag, which needs no sorting. -/
theorem tagText_singleton (collation : Collation) (tag value : String)
    : tagText collation (.set .empty tag value) = tag ++ "=" ++ value := by
  simp [tagText, InsertionMap.set, InsertionMap.empty, InsertionMap.keys]

/-- A counter with a tag adds to the counter that is named like the two together. -/
theorem counters_share_a_cell
    : ¬ reportsRight characterOrder .counter
          [.increment "a[b=c]" .empty (1 : Int), .increment "a" (.set .empty "b" "c") 2] "a[b=c]"
          .empty := by
  have plain : key characterOrder "a[b=c]" .empty = "a[b=c]" := by
    simp [key, tagText, InsertionMap.empty]
  have tagged : key characterOrder "a" (.set .empty "b" "c") = "a[b=c]" := by
    rw [key, tagText_singleton]
    decide
  intro right
  have same := (map_value_counters characterOrder _ _).symm.trans right
  simp [recordedAt, recorded, keyOf, MetricCall.kind, MetricCall.name, MetricCall.tags,
    MetricCall.value, sameMetric, total, plain, tagged] at same

end Axionvera.Metrics
