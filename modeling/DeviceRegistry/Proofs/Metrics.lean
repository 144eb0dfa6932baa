import DeviceRegistry.Metrics
import Mathlib.Algebra.BigOperators.Group.List.Basic
import Mathlib.Algebra.Ring.Nat
import Mathlib.Data.List.Induction

/-! What the totals of calls tell. They are sums over the calls that ended, so neither their order
nor what happened in between has a part in them. -/
namespace DeviceRegistry

/-- The same span of time, with less than a second in nanoseconds. -/
def Duration.carried (d : Duration) : Duration :=
  ⟨d.seconds + d.nanoseconds / 1000000000, d.nanoseconds % 1000000000⟩

theorem Duration.toNat_micros (d : Duration) :
    d.micros.toNat =
      min (d.carried.seconds * 1000000 + d.carried.nanoseconds / 1000) (2 ^ 64 - 1) := by
  have carried : d.seconds * 1000000 + d.nanoseconds / 1000 =
      d.carried.seconds * 1000000 + d.carried.nanoseconds / 1000 := by
    simp only [Duration.carried]
    omega
  rw [micros, carried, show UInt64.size - 1 = 2 ^ 64 - 1 from rfl, UInt64.toNat_ofNat']
  exact Nat.mod_eq_of_lt (Nat.lt_of_le_of_lt (Nat.min_le_right _ _) (by decide))

namespace Metrics

theorem countIn_snapshot (m : Metrics) (method : EncoderMethod) (status : CallStatus) :
    countIn m.snapshot method status = (m.stats method status).count := by
  cases method <;> cases status <;> rfl

/-- An observation is recorded for its own pair of method and outcome. -/
theorem stats_observe (m : Metrics) (method method' : EncoderMethod) (status status' : CallStatus)
    (d : Duration) : (m.observe method status d).stats method' status' =
      if method = method' ∧ status = status' then (m.stats method' status').record d
      else m.stats method' status' := by
  cases method <;> cases method' <;> cases status <;> cases status' <;> rfl

theorem count_observe (m : Metrics) (method method' : EncoderMethod) (status status' : CallStatus)
    (d : Duration) : ((m.observe method status d).stats method' status').count =
      (m.stats method' status').count + if method = method' ∧ status = status' then 1 else 0 := by
  rw [stats_observe]
  split
  · rfl
  · rw [UInt64.add_zero]

/-- A call that ended: its method, its outcome, and how long it took. -/
structure Observation where
  method : EncoderMethod
  status : CallStatus
  duration : Duration
deriving DecidableEq

/-- The totals after the calls, from none. -/
def ofCalls (calls : List Observation) : Metrics :=
  calls.foldl (fun m call => m.observe call.method call.status call.duration) {}

/-- The calls of a method that ended in that way. -/
def callsOf (calls : List Observation) (method : EncoderMethod) (status : CallStatus) :
    List Observation :=
  calls.filter fun call => call.method = method ∧ call.status = status

theorem ofCalls_concat (calls : List Observation) (call : Observation) :
    ofCalls (calls ++ [call]) = (ofCalls calls).observe call.method call.status call.duration :=
  List.foldl_append

theorem callsOf_concat (calls : List Observation) (call : Observation) (method : EncoderMethod)
    (status : CallStatus) : callsOf (calls ++ [call]) method status =
      if call.method = method ∧ call.status = status then callsOf calls method status ++ [call]
      else callsOf calls method status := by
  by_cases own : call.method = method ∧ call.status = status
  · simp [callsOf, own]
  · simp [callsOf, own]

/-- The totals of a pair are those of its calls, modulo `2 ^ 64`. -/
theorem stats_ofCalls (calls : List Observation) (method : EncoderMethod) (status : CallStatus) :
    (ofCalls calls).stats method status =
      ⟨.ofNat (callsOf calls method status).length,
        .ofNat ((callsOf calls method status).map (·.duration.micros.toNat)).sum⟩ := by
  -- the totals are folded from the left, so the step is the call that came last
  induction calls using List.reverseRecOn with
  | nil => cases method <;> cases status <;> rfl
  | append_singleton calls call ih =>
    rw [ofCalls_concat, stats_observe, callsOf_concat, ih]
    split
    · simp only [CallStats.record, List.length_append, List.length_singleton, List.map_append,
        List.map_singleton, List.sum_append, List.sum_singleton, UInt64.ofNat_add,
        UInt64.ofNat_toNat]
      rfl
    · rfl

/-- A snapshot has one line for each pair of method and outcome. Its count is the number of the
calls of that pair and its total the sum of their whole microseconds, each at most what 64 bits
hold, and both go round at `2 ^ 64`. The order of the calls does not matter. -/
theorem snapshot_ofCalls (calls : List Observation) :
    ((ofCalls calls).snapshot.map fun line => (line.method.name, line.status.name)) =
      [("CreateStream", "success"), ("CreateStream", "error"), ("DeleteStream", "success"),
        ("DeleteStream", "error")] ∧
    (∀ method status, ∃ line,
      (ofCalls calls).snapshot.find? (fun line =>
        line.method.name = method.name ∧ line.status.name = status.name) = some line ∧
      line.method = method ∧ line.status = status ∧
      line.stats.count.toNat = (callsOf calls method status).length % 2 ^ 64 ∧
      line.stats.totalMicros.toNat = ((callsOf calls method status).map fun call =>
        min (call.duration.carried.seconds * 1000000 + call.duration.carried.nanoseconds / 1000)
          (2 ^ 64 - 1)).sum % 2 ^ 64 ∧
      countIn (ofCalls calls).snapshot method status = line.stats.count) ∧
    ∀ others, calls.Perm others → (ofCalls others).snapshot = (ofCalls calls).snapshot := by
  refine ⟨rfl, fun method status => ?_, fun others same => ?_⟩
  · refine ⟨⟨method, status, (ofCalls calls).stats method status⟩, ?_, rfl, rfl, ?_, ?_,
      countIn_snapshot _ method status⟩
    · cases method <;> cases status <;>
        simp [snapshot, pairs, EncoderMethod.name, CallStatus.name]
    · rw [stats_ofCalls, UInt64.toNat_ofNat']
    · simp only [stats_ofCalls, UInt64.toNat_ofNat', Duration.toNat_micros]
  · have listed (method : EncoderMethod) (status : CallStatus) :
        (callsOf calls method status).Perm (callsOf others method status) := same.filter _
    refine List.map_congr_left fun (method, status) _ => ?_
    dsimp only
    have counted := (listed method status).length_eq
    have summed := ((listed method status).map (·.duration.micros.toNat)).sum_eq
    rw [stats_ofCalls, stats_ofCalls, counted, summed]

/-- Two calls whose microseconds go round, the longer of which counts for less than it took. -/
theorem snapshot_ofCalls_round :
    [⟨.createStream, .success, ⟨2 ^ 64, 0⟩⟩, ⟨.createStream, .success, ⟨0, 1000001999⟩⟩,
        ⟨.deleteStream, .error, ⟨3, 0⟩⟩].Perm
      [⟨.deleteStream, .error, ⟨3, 0⟩⟩, ⟨.createStream, .success, ⟨2 ^ 64, 0⟩⟩,
        (⟨.createStream, .success, ⟨0, 1000001999⟩⟩ : Observation)] ∧
    (ofCalls [⟨.deleteStream, .error, ⟨3, 0⟩⟩, ⟨.createStream, .success, ⟨2 ^ 64, 0⟩⟩,
        ⟨.createStream, .success, ⟨0, 1000001999⟩⟩]).snapshot =
      [⟨.createStream, .success, ⟨2, 1000000⟩⟩, ⟨.createStream, .error, ⟨0, 0⟩⟩,
        ⟨.deleteStream, .success, ⟨0, 0⟩⟩, ⟨.deleteStream, .error, ⟨1, 3000000⟩⟩] := by
  have same : [⟨.createStream, .success, ⟨2 ^ 64, 0⟩⟩,
      ⟨.createStream, .success, ⟨0, 1000001999⟩⟩, ⟨.deleteStream, .error, ⟨3, 0⟩⟩].Perm
      [⟨.deleteStream, .error, ⟨3, 0⟩⟩, ⟨.createStream, .success, ⟨2 ^ 64, 0⟩⟩,
        (⟨.createStream, .success, ⟨0, 1000001999⟩⟩ : Observation)] := by decide
  exact ⟨same, ((snapshot_ofCalls _).2.2 _ same).trans (by decide +kernel)⟩

end Metrics
end DeviceRegistry
