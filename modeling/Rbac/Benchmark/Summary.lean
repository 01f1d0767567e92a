import Rbac.Number.Shortest
import Rbac.Percentile

namespace Rbac.Benchmark

open Number (Binary)

/-- What was measured. Latencies and the total time are in seconds. -/
structure Measurement where
  latencies : List Binary := []
  granted : Nat := 0
  errors : Nat := 0
  total : Binary := .zero

namespace Summary

def ascending (latencies : List Binary) : List Binary :=
  latencies.mergeSort Binary.le

/-- The middle one of ascending values, or halfway between the two in the middle. -/
def median (values : List Binary) : Binary :=
  let half := values.length / 2
  let upper := values.getD half .zero
  if values.length % 2 == 1 then upper
  else ((values.getD (half - 1) .zero).add upper).div (.ofInt 2)

def share95 : Binary := .ofDecimal false 95 (-2)
def share99 : Binary := .ofDecimal false 99 (-2)

def milliseconds (seconds : Binary) : String :=
  (seconds.mul (.ofInt 1000)).fixed 1

def percentile (values : List Binary) (share : Binary) : Binary :=
  (Percentile.pick values (.binary share)).toOption.getD .zero

/-- Checks in a second; nothing if no time has passed. -/
def rate? (measurement : Measurement) : Option Binary :=
  if measurement.total.isZero then none
  else some ((Binary.ofInt measurement.latencies.length).div measurement.total)

def text (roles permissions : String) (measurement : Measurement) (rate : Binary) : String :=
  let values := ascending measurement.latencies
  let count := measurement.latencies.length
  let p50 := milliseconds (median values)
  let p95 := milliseconds (percentile values share95)
  let p99 := milliseconds (percentile values share99)
  s!"Permission check benchmark (roles={roles}, perms/role={permissions}, "
    ++ s!"checks={count}, granted={measurement.granted}, errors={measurement.errors})\n"
    ++ s!"  QPS: {rate.fixed 2}\n"
    ++ s!"  Latency: p50={p50} ms, p95={p95} ms, p99={p99} ms\n"
    ++ s!"  Total time: {measurement.total.fixed 2} s\n"

end Summary
end Rbac.Benchmark
