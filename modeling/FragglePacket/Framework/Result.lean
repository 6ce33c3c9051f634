import Mathlib.Data.List.Basic

/-! The result every network test reports in. -/

namespace FragglePacket.Framework

inductive TestStatus where
  | pending
  | running
  | success
  | warning
  | failed
  | skipped
deriving DecidableEq

inductive TestCategory where
  | mtu
  | rtt
  | packetLoss
  | pathAnalysis
  | tcpHealth
  | dns
  | https
  | ipv6
  | application
  | fuzzing
deriving DecidableEq

inductive DiagnosisSeverity where
  | info
  | warning
  | error
  | critical
deriving DecidableEq

structure Diagnosis where
  severity : DiagnosisSeverity
  title : String
  description : String
  recommendations : List String
  relatedTests : List String

def Diagnosis.new (severity : DiagnosisSeverity) (title description : String) : Diagnosis where
  severity := severity
  title := title
  description := description
  recommendations := []
  relatedTests := []

def Diagnosis.withRecommendation (diagnosis : Diagnosis) (recommendation : String) : Diagnosis :=
  { diagnosis with recommendations := diagnosis.recommendations ++ [recommendation] }

def Diagnosis.withRelatedTest (diagnosis : Diagnosis) (testName : String) : Diagnosis :=
  { diagnosis with relatedTests := diagnosis.relatedTests ++ [testName] }

/-- Metrics and metadata are maps, kept as lists in which a later entry comes first. -/
structure TestResult where
  name : String
  category : TestCategory
  target : String
  status : TestStatus
  metrics : List (String × Nat)
  metadata : List (String × String)
  diagnoses : List Diagnosis

def TestResult.new (name : String) (category : TestCategory) (target : String) : TestResult where
  name := name
  category := category
  target := target
  status := .running
  metrics := []
  metadata := []
  diagnoses := []

def TestResult.addMetric (result : TestResult) (key : String) (value : Nat) : TestResult :=
  { result with metrics := (key, value) :: result.metrics }

def TestResult.addMetadata (result : TestResult) (key value : String) : TestResult :=
  { result with metadata := (key, value) :: result.metadata }

def TestResult.addDiagnosis (result : TestResult) (diagnosis : Diagnosis) : TestResult :=
  { result with diagnoses := result.diagnoses ++ [diagnosis] }

def TestResult.setStatus (result : TestResult) (status : TestStatus) : TestResult :=
  { result with status := status }

def TestResult.metric (result : TestResult) (key : String) : Option Nat := result.metrics.lookup key

@[simp] theorem TestResult.metric_addMetric (result : TestResult) (key : String) (value : Nat) :
    (result.addMetric key value).metric key = some value := by
  simp [TestResult.metric, TestResult.addMetric]

@[simp] theorem TestResult.metric_addMetadata (result : TestResult) (key value name : String) :
    (result.addMetadata key value).metric name = result.metric name := rfl

@[simp] theorem TestResult.metric_addDiagnosis (result : TestResult) (diagnosis : Diagnosis)
    (name : String) :
    (result.addDiagnosis diagnosis).metric name = result.metric name := rfl

@[simp] theorem TestResult.metric_setStatus (result : TestResult) (status : TestStatus)
    (name : String) :
    (result.setStatus status).metric name = result.metric name := rfl

end FragglePacket.Framework
