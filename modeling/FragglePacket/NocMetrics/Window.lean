import Mathlib.Data.Rat.Floor
import FragglePacket.Lists.SortByKey

/-! Window aggregation functions. Values are exact rationals. -/

namespace FragglePacket.NocMetrics

open FragglePacket.Lists

/-- The time in seconds and the value. -/
abbrev Sample := Int × ℚ

def sortedValues (window : List Sample) : List Sample := sortByKey (·.1) window

namespace Window

def last (window : List Sample) : Option ℚ := (sortedValues window).getLast?.map (·.2)

def sum (window : List Sample) : Option ℚ :=
  if window = [] then none else some (window.map (·.2)).sum

def avg (window : List Sample) : Option ℚ :=
  if window = [] then none else some ((window.map (·.2)).sum / window.length)

/-- The linearly interpolated percentile, for `q` from 0 to 100. -/
def percentile (window : List Sample) (q : ℚ) : Option ℚ :=
  if window = [] then none
  else
    let values := sortByKey id (window.map (·.2))
    if values.length = 1 then values.head?
    else
      let rank := min (max q 0) 100 / 100 * (values.length - 1 : Nat)
      let lo := ⌊rank⌋.toNat
      let hi := ⌈rank⌉.toNat
      if lo = hi then some (values.getD lo 0)
      else
        let frac := rank - lo
        some (values.getD lo 0 + (values.getD hi 0 - values.getD lo 0) * frac)

def q1 (window : List Sample) : Option ℚ := percentile window 25
def q2 (window : List Sample) : Option ℚ := percentile window 50
def q3 (window : List Sample) : Option ℚ := percentile window 75
def p95 (window : List Sample) : Option ℚ := percentile window 95
def p99 (window : List Sample) : Option ℚ := percentile window 99

/-- The sum over the steps from one sample to the next in time. -/
def stepSum (step : ℚ → ℚ → ℚ) (window : List Sample) : Option ℚ :=
  let sorted := sortedValues window
  if sorted = [] then none else some ((sorted.zip sorted.tail).map fun pair =>
    step pair.1.2 pair.2.2).sum

def stepInc (window : List Sample) : Option ℚ :=
  stepSum (fun before after => max (after - before) 0) window
def stepDec (window : List Sample) : Option ℚ :=
  stepSum (fun before after => max (before - after) 0) window
def stepAbs (window : List Sample) : Option ℚ :=
  stepSum (fun before after => |after - before|) window

def apply (name : String) (window : List Sample) : Except String (Option ℚ) :=
  match name with
  | "last" => .ok (last window)
  | "sum" => .ok (sum window)
  | "avg" => .ok (avg window)
  | "q1" => .ok (q1 window)
  | "q2" | "median" => .ok (q2 window)
  | "q3" => .ok (q3 window)
  | "p95" => .ok (p95 window)
  | "p99" => .ok (p99 window)
  | "step_inc" => .ok (stepInc window)
  | "step_dec" => .ok (stepDec window)
  | "step_abs" => .ok (stepAbs window)
  | other => .error ("unknown window function '" ++ other ++ "'")

end Window

end FragglePacket.NocMetrics
