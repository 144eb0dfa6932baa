import DeviceRegistry.Json.Value

/-! Counts and running times of the calls to the encoder, by method and outcome. -/
namespace DeviceRegistry

inductive EncoderMethod where
  | createStream | deleteStream
deriving DecidableEq, Inhabited

def EncoderMethod.name : EncoderMethod → String
  | createStream => "CreateStream"
  | deleteStream => "DeleteStream"

inductive CallStatus where
  | success | error
deriving DecidableEq, Inhabited

namespace CallStatus

def name : CallStatus → String
  | success => "success"
  | error => "error"

def of {ε α : Type} : Except ε α → CallStatus
  | .ok _ => success
  | .error _ => error

end CallStatus

/-- A span of time. Nanoseconds may exceed a second. -/
structure Duration where
  seconds : Nat := 0
  nanoseconds : Nat := 0
deriving DecidableEq, Inhabited

/-- The whole microseconds, at most what 64 bits hold. -/
def Duration.micros (d : Duration) : UInt64 :=
  UInt64.ofNat (min (d.seconds * 1000000 + d.nanoseconds / 1000) (UInt64.size - 1))

/-- Both totals go round at `2^64`. -/
structure CallStats where
  count : UInt64 := 0
  totalMicros : UInt64 := 0
deriving DecidableEq, Inhabited

def CallStats.record (s : CallStats) (d : Duration) : CallStats :=
  ⟨s.count + 1, s.totalMicros + d.micros⟩

structure Metrics where
  createSuccess : CallStats := {}
  createError : CallStats := {}
  deleteSuccess : CallStats := {}
  deleteError : CallStats := {}
deriving DecidableEq, Inhabited

namespace Metrics

def stats (m : Metrics) : EncoderMethod → CallStatus → CallStats
  | .createStream, .success => m.createSuccess
  | .createStream, .error => m.createError
  | .deleteStream, .success => m.deleteSuccess
  | .deleteStream, .error => m.deleteError

def observe (m : Metrics) (method : EncoderMethod) (status : CallStatus) (d : Duration) : Metrics :=
  match method, status with
  | .createStream, .success => { m with createSuccess := m.createSuccess.record d }
  | .createStream, .error => { m with createError := m.createError.record d }
  | .deleteStream, .success => { m with deleteSuccess := m.deleteSuccess.record d }
  | .deleteStream, .error => { m with deleteError := m.deleteError.record d }

/-- A pair of method and outcome with its totals. -/
structure Line where
  method : EncoderMethod
  status : CallStatus
  stats : CallStats
deriving DecidableEq, Inhabited

/-- The pairs in the order in which they are reported. -/
def pairs : List (EncoderMethod × CallStatus) :=
  [(.createStream, .success), (.createStream, .error), (.deleteStream, .success),
    (.deleteStream, .error)]

/-- The totals as they are at the moment. -/
def snapshot (m : Metrics) : List Line := pairs.map fun (a, b) => ⟨a, b, m.stats a b⟩

/-- The number of calls that a snapshot holds for a pair. -/
def countIn (lines : List Line) (method : EncoderMethod) (status : CallStatus) : UInt64 :=
  ((lines.find? fun l => l.method = method ∧ l.status = status).map (·.stats.count)).getD 0

def Line.toJson (l : Line) : Json.Value :=
  .object [("method", .text l.method.name), ("status", .text l.status.name),
    ("count", .natural l.stats.count), ("total_micros", .natural l.stats.totalMicros)]

def snapshotJson (lines : List Line) : Json.Value :=
  .object [("encoder_calls", .list (lines.map Line.toJson))]

def toJson (m : Metrics) : Json.Value := snapshotJson m.snapshot

end Metrics
end DeviceRegistry
