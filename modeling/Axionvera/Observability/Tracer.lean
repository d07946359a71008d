import Axionvera.Foundation.InsertionMap

/-! The tracer (`observability/tracer.ts`), with the time of each call. -/

namespace Axionvera.Observability

open Axionvera.Foundation

/-- `TraceLevel`. -/
inductive TraceLevel where
  | off
  | error
  | warn
  | info
  | debug
  deriving DecidableEq, Repr

/-- `TraceSpan`. -/
structure TraceSpan where
  id : String
  name : String
  startTime : Int
  endTime : Option Int := none
  duration : Option Int := none
  tags : InsertionMap String String
  parentId : Option String

/-- `Tracer`. -/
structure Tracer where
  level : TraceLevel := .off
  maxSpans : Nat := 100
  spans : InsertionMap String TraceSpan := .empty
  activeSpans : InsertionMap String TraceSpan := .empty
  spanCounter : Nat := 0

/-- The id of a span by its number. -/
def spanId (number : Nat) : String :=
  "span_" ++ toString number

namespace Tracer

/-- `setLevel`. -/
def setLevel (tracer : Tracer) (level : TraceLevel) : Tracer :=
  { tracer with level := level }

/-- The entry with the earliest start, the first of them if there are several. -/
def oldestEntry (entries : List (String × TraceSpan)) : Option (String × TraceSpan) :=
  entries.foldl
    (fun oldest entry =>
      match oldest with
      | none => some entry
      | some earliest =>
          if entry.2.startTime < earliest.2.startTime then some entry else some earliest)
    none

/-- `evictOldest`. -/
def evictOldest (tracer : Tracer) : Tracer :=
  match oldestEntry tracer.spans.entries with
  | some oldest => { tracer with spans := tracer.spans.delete oldest.1 }
  | none => tracer

/-- `startSpan`, with the id that it returns. -/
def startSpan (tracer : Tracer) (now : Int) (name : String)
    (tags : InsertionMap String String := .empty) (parentId : Option String := none)
    : String × Tracer :=
  if tracer.level = .off then ("", tracer)
  else
    let id := spanId (tracer.spanCounter + 1)
    let span : TraceSpan :=
      { id := id, name := name, startTime := now, tags := tags, parentId := parentId }
    let started :=
      {
        tracer with
        spanCounter := tracer.spanCounter + 1
        activeSpans := tracer.activeSpans.set id span
      }
    let full :=
      started.maxSpans < started.activeSpans.entries.length + started.spans.entries.length
    (id, if full then started.evictOldest else started)

/-- `endSpan`. -/
def endSpan (tracer : Tracer) (now : Int) (spanId : String) : Tracer :=
  match tracer.activeSpans.get spanId with
  | none => tracer
  | some span =>
      let ended := { span with endTime := some now, duration := some (now - span.startTime) }
      {
        tracer with
        activeSpans := tracer.activeSpans.delete spanId
        spans := tracer.spans.set spanId ended
      }

/-- `addTag`. -/
def addTag (tracer : Tracer) (spanId key value : String) : Tracer :=
  match tracer.activeSpans.get spanId with
  | none => tracer
  | some span =>
      let tagged := { span with tags := span.tags.set key value }
      { tracer with activeSpans := tracer.activeSpans.set spanId tagged }

/-- `getSpan`. -/
def getSpan (tracer : Tracer) (spanId : String) : Option TraceSpan :=
  match tracer.activeSpans.get spanId with
  | some span => some span
  | none => tracer.spans.get spanId

/-- `getAllSpans`. -/
def getAllSpans (tracer : Tracer) : List TraceSpan :=
  tracer.spans.values

/-- `getActiveSpans`. -/
def getActiveSpans (tracer : Tracer) : List TraceSpan :=
  tracer.activeSpans.values

/-- `clear`. -/
def clear (tracer : Tracer) : Tracer :=
  { tracer with spans := .empty, activeSpans := .empty }

end Tracer

/-- The calls that change a tracer, with the time at which they are made where it matters. -/
inductive TracerAction where
  | setLevel (level : TraceLevel)
  | startSpan (now : Int) (name : String) (tags : InsertionMap String String)
    (parentId : Option String)
  | endSpan (now : Int) (spanId : String)
  | addTag (spanId key value : String)
  | clear

/-- Perform a call. -/
def Tracer.perform (tracer : Tracer) : TracerAction → Tracer
  | .setLevel level => tracer.setLevel level
  | .startSpan now name tags parentId => (tracer.startSpan now name tags parentId).2
  | .endSpan now spanId => tracer.endSpan now spanId
  | .addTag spanId key value => tracer.addTag spanId key value
  | .clear => tracer.clear

/-- A new tracer after the calls. -/
def tracerAfter (level : TraceLevel) (maxSpans : Nat) (actions : List TracerAction) : Tracer :=
  actions.foldl Tracer.perform { level := level, maxSpans := maxSpans }

end Axionvera.Observability
