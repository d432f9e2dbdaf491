import EdgeGateway.Library.JsonValue
import EdgeGateway.Library.LeastSquares
import EdgeGateway.Library.PyRound

open LeastSquares (mean)

namespace gateway.trend_analysis

inductive TrendDirection where
  | stable
  | upward
  | downward
  deriving DecidableEq

/-- The dict that the regression returns. -/
structure Regression where
  slope : ℚ := 0
  intercept : ℚ := 0
  r_squared : ℚ := 0
  trend_direction : TrendDirection := .stable

/-- The pairs of an operation on two arrays, of which one with a single element is stretched. -/
def broadcast (a b : List ℚ) : Except PyExc (List (ℚ × ℚ)) :=
  if a.length = b.length then .ok (a.zip b)
  else
    match a, b with
    | [x], b => .ok (b.map fun y => (x, y))
    | a, [y] => .ok (a.map fun x => (x, y))
    -- "operands could not be broadcast together"
    | _, _ => .error .ValueError

def x_centered (x : List ℚ) : List ℚ := x.map fun v => v - mean x

def sum_xx (x : List ℚ) : ℚ := ((x_centered x).map fun v => v * v).sum

/-- Determine trend direction based on slope significance. -/
def trend_direction (slope y_mean : ℚ) : TrendDirection :=
  -- "per hour"
  let relative_slope := |slope * 3600| / max |y_mean| (1 / 10 ^ 10)
  if relative_slope < 0.01 then .stable
  else if slope > 0 then .upward
  else .downward

/-- The line and what is said about it, before anything is clamped or rounded. -/
def fit (x y : List ℚ) (sum_xy : ℚ) : Except PyExc Regression := do
  let slope := sum_xy / sum_xx x
  let intercept := mean y - slope * mean x
  let y_pred := x.map fun v => slope * v + intercept
  let ss_res := ((← broadcast y y_pred).map fun p => (p.1 - p.2) ^ 2).sum
  let ss_tot := (y.map fun v => (v - mean y) ^ 2).sum
  return {
    slope
    intercept
    r_squared := if ss_tot ≠ 0 then 1 - ss_res / ss_tot else 0
    trend_direction := trend_direction slope (mean y) }

/-- The values as they are returned. -/
def Regression.rounded (regression : Regression) : Regression where
  slope := PyRound.round regression.slope 8
  intercept := PyRound.round regression.intercept 4
  r_squared := PyRound.round (max 0 (min 1 regression.r_squared)) 4
  trend_direction := regression.trend_direction

/-- The regression, with what is done to the fit before it is returned. -/
def regression (finish : Regression → Regression) (timestamps values : List ℚ) : Except PyExc Regression := do
  if timestamps.length < 2 then return {}
  let products ← broadcast (x_centered timestamps) values
  let sum_xy := (products.map fun p => p.1 * p.2).sum
  if sum_xx timestamps = 0 then return { intercept := mean values }
  return finish (← fit timestamps values sum_xy)

/-- Compute linear regression using numpy. -/
def compute_linear_regression : List ℚ → List ℚ → Except PyExc Regression := regression Regression.rounded

end gateway.trend_analysis
