import Turnstile.Decimal.Style
import Turnstile.Telemetry
import Turnstile.Trace

/-! The metrics recorder and the text that it renders: two counters and the durations of logins. A
recorder keeps what was reported to it, and all numbers are read off that. -/
namespace Turnstile

/-- What a recorder keeps. -/
inductive Report where
  | measured (measurement : Measurement)
  /-- The metrics were described. -/
  | described
  /-- The text was rendered. Sums are taken over the samples between two renderings. -/
  | rendered
  deriving DecidableEq, Repr

/-- A recorder: its settings, and what was reported to it, in order. -/
structure Recorder where
  service : String
  buckets : List Float
  reports : List Report

/-- The value of the label `reason` of a granted login. -/
def noReason : String := "none"

namespace Recorder

/-- A recorder to which nothing was reported. -/
def start (config : MetricsConfig) : Except TelemetryError Recorder :=
  match config.validate with
  | .ok () => .ok ⟨config.serviceName, config.buckets, []⟩
  | .error e => .error e

def report (recorder : Recorder) (r : Report) : Recorder :=
  { recorder with reports := recorder.reports ++ [r] }

/-- With measurements reported. -/
def record (recorder : Recorder) (measurements : List Measurement) : Recorder :=
  { recorder with reports := recorder.reports ++ measurements.map .measured }

def measurements (recorder : Recorder) : List Measurement :=
  recorder.reports.filterMap fun
    | .measured m => some m
    | _ => none

/-- The counter of logins with this outcome and reason. -/
def logins (recorder : Recorder) (outcome reason : String) : Nat :=
  recorder.measurements.countP fun
    | .login o r _ => o = outcome ∧ r.getD noReason = reason
    | _ => false

/-- The counter of decisions of the gates with this name. -/
def gateDecisions (recorder : Recorder) (gate decision : String) : Nat :=
  recorder.measurements.countP fun
    | .gate g d => g = gate ∧ d = decision
    | _ => false

end Recorder

namespace Metrics

/-- Seconds as one number. -/
def seconds (d : Duration) : Float :=
  Float.ofNat d.seconds + Float.ofNat d.nanoseconds / 1000000000.0

/-- The measurements between renderings, with those after the last one. -/
def intervals : List Report → List (List Measurement)
  | [] => [[]]
  | .rendered :: rest => [] :: intervals rest
  | .described :: rest => intervals rest
  | .measured m :: rest =>
    match intervals rest with
    | [] => [[m]]
    | ms :: others => (m :: ms) :: others

/-- The durations of logins with an outcome. -/
def durations (ms : List Measurement) (outcome : String) : List Float :=
  ms.filterMap fun
    | .login o _ took => if o = outcome then some (seconds took) else none
    | .gate _ _ => none

/-- The sum of samples, from the first on. -/
def sum (samples : List Float) : Float := samples.foldl (· + ·) 0.0

/-- So many samples are kept together. -/
def blockSize : Nat := 64

/-- The samples in blocks, of which only the last may have room left. -/
def blocks (samples : List Float) : List (List Float) :=
  if samples.length ≤ blockSize then [samples]
  else samples.take blockSize :: blocks (samples.drop blockSize)
termination_by samples.length
decreasing_by simp [blockSize] at *; omega

/-- The sum of all durations of logins with one of the outcomes. Those between two renderings are
summed by blocks, of which the last comes first. -/
def total (outcomes : List String) (reports : List Report) : Float :=
  sum ((intervals reports).flatMap fun ms =>
    outcomes.flatMap fun outcome => (blocks (durations ms outcome)).reverse.map sum)

/-- A sample counts from the first bucket on that it fits into: this is its place. -/
def place (buckets : List Float) (sample : Float) : Nat := buckets.findIdx (sample ≤ ·)

/-- How many samples count in each bucket. -/
def bucketCounts (buckets samples : List Float) : List (Float × Nat) :=
  buckets.zipIdx.map fun (bound, i) =>
    (bound, samples.countP fun sample => place buckets sample ≤ i)

/-- Writes a label value. A backslash waits for the character after it: two of them are one escaped backslash,
and one before a quotation mark is taken for its escape. -/
def escape (pending : Bool) : List Char → List Char
  | [] => if pending then ['\\', '\\'] else []
  | c :: r =>
    if c = '\n' then '\\' :: 'n' :: escape pending r
    else if c = '"' then '\\' :: '"' :: escape false r
    else if c = '\\' then (if pending then ['\\', '\\'] else []) ++ escape (!pending) r
    else (if pending then ['\\', '\\'] else []) ++ c :: escape false r

/-- How a label value is written. -/
def shown (value : String) : String := String.ofList (escape false value.toList)

/-- Labels in braces. -/
def labelText (labels : List (String × String)) : String :=
  let pairs := labels.map fun (name, value) => name ++ "=\"" ++ value ++ "\""
  "\x7b" ++ ",".intercalate pairs ++ "\x7d"

/-- A line with a number. -/
def sampleLine (name : String) (labels : List (String × String)) (number : String) : String :=
  name ++ labelText labels ++ " " ++ number

/-- The lines of a counter. Of series with labels that are shown alike the last has the line. -/
def counterLines (name : String) (series : List (List (String × String) × Nat)) : List String :=
  (series.map (·.1)).eraseDups.map fun labels =>
    sampleLine name labels (toString ((series.reverse.lookup labels).getD 0))

/-- The line that says what kind a metric is, after the one that describes it. -/
def headLines (described : Bool) (name kind help : String) : List String :=
  (if described then ["# HELP " ++ name ++ " " ++ help] else []) ++ ["# TYPE " ++ name ++ " " ++ kind]

def loginsName : String := "gatehouse_logins_total"

def durationName : String := "gatehouse_login_duration_seconds"

def decisionsName : String := "gatehouse_gate_decisions_total"

/-- The outcomes and reasons of logins, each pair once. -/
def loginLabels (ms : List Measurement) : List (String × String) :=
  (ms.filterMap fun
    | .login outcome reason _ => some (outcome, reason.getD noReason)
    | _ => none).eraseDups

/-- The gates and their decisions, each pair once. -/
def gateLabels (ms : List Measurement) : List (String × String) :=
  (ms.filterMap fun
    | .gate gate decision => some (gate, decision)
    | _ => none).eraseDups

/-- The lines on the durations of logins with outcomes that are shown alike. -/
def durationLines (recorder : Recorder) (outcomes : List String) (label : String) : List String :=
  let outcomes := outcomes.filter (shown · = label)
  let labels := [("service", shown recorder.service), ("outcome", label)]
  let samples := outcomes.flatMap (durations recorder.measurements)
  (bucketCounts recorder.buckets samples).map (fun (bound, n) =>
      sampleLine (durationName ++ "_bucket") (labels ++ [("le", Decimal.plain.write bound)])
        (toString n)) ++
    [sampleLine (durationName ++ "_bucket") (labels ++ [("le", "+Inf")]) (toString samples.length),
     sampleLine (durationName ++ "_sum") labels
      (Decimal.plain.write (total outcomes recorder.reports)),
     sampleLine (durationName ++ "_count") labels (toString samples.length)]

/-- The lines on the two metrics of logins. -/
def loginLines (recorder : Recorder) (described : Bool) : List String :=
  let labels := loginLabels recorder.measurements
  let outcomes := (labels.map (·.1)).eraseDups
  if labels.isEmpty then []
  else
    headLines described loginsName "counter"
        "Total number of login attempts by outcome and rejection reason" ++
      counterLines loginsName (labels.map fun (outcome, reason) =>
        ([("service", shown recorder.service), ("outcome", shown outcome), ("reason", shown reason)],
          recorder.logins outcome reason)) ++
      headLines described durationName "histogram" "Time spent evaluating a login attempt" ++
      (outcomes.map shown).eraseDups.flatMap (durationLines recorder outcomes)

/-- The lines on the decisions of gates. -/
def gateLines (recorder : Recorder) (described : Bool) : List String :=
  let labels := gateLabels recorder.measurements
  if labels.isEmpty then []
  else
    headLines described decisionsName "counter" "Total number of decisions returned by each gate" ++
      counterLines decisionsName (labels.map fun (gate, decision) =>
        ([("service", shown recorder.service), ("gate", shown gate), ("decision", shown decision)],
          recorder.gateDecisions gate decision))

end Metrics

/-- The lines of the text, sorted, and the recorder after the rendering. -/
def Recorder.render (recorder : Recorder) : List String × Recorder :=
  let described := recorder.reports.contains .described
  ((Metrics.loginLines recorder described ++ Metrics.gateLines recorder described).mergeSort
    (fun a b => a ≤ b), recorder.report .rendered)

end Turnstile
