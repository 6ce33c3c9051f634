import Mathlib.Data.Finset.Basic
import Mathlib.Data.Finset.Dedup
import FragglePacket.Text.Integer

/-! What resolvers answer for a name, and whether their answers steer a client to different
endpoints. -/

namespace FragglePacket.NetworkTests

open FragglePacket.Text

inductive RecordType where
  | a
  | aaaa
  | https
  | svcb
deriving DecidableEq

def RecordType.digArg : RecordType → String
  | a => "A"
  | aaaa => "AAAA"
  | https => "HTTPS"
  | svcb => "SVCB"

structure AnswerRecord where
  recordType : RecordType
  value : Str
  ttlSecs : Option UInt32
deriving DecidableEq

/-- `error` is `none` for a query that ran, also where it has no answers. -/
structure ResolverResult where
  resolver : String
  answers : List AnswerRecord
  error : Option String
deriving DecidableEq

namespace ResolverResult

def answered (result : ResolverResult) : Bool := result.error.isNone

/-- The addresses that the resolver would send a client to. -/
def endpointAddresses (result : ResolverResult) : Finset Str :=
  ((result.answers.filter fun answer => answer.recordType = .a ∨ answer.recordType = .aaaa).map
    (·.value)).toFinset

end ResolverResult

/-- Parses `dig +noall +answer` output: `name ttl IN TYPE value...`. -/
def parseDigAnswers (text : Str) (requested : RecordType) : List AnswerRecord :=
  (lines text).filterMap fun line =>
    let fields := splitWhitespace line
    if fields.length < 5 then none
    else some { recordType := requested, value := [' '].intercalate (fields.drop 4),
                ttlSecs := (fields[1]?).bind parseU32 }

/-- How the `dig` command ends. -/
inductive DigOutcome where
  | notRun (error : String)
  | failed (stderr : Str)
  | printed (stdout : Str)

/-- `dig` answers for a resolver, a name and a record type. -/
def runDig (dig : String → String → RecordType → DigOutcome) (resolver name : String)
    (recordType : RecordType) :
    ResolverResult :=
  match dig resolver name recordType with
  | .notRun error => { resolver, answers := [], error := some ("failed to run dig: " ++ error) }
  | .failed stderr =>
    let stderr := trim stderr
    { resolver, answers := [], error :=
      some (if stderr.isEmpty then "dig exited with an error" else .ofList stderr) }
  | .printed stdout => { resolver, answers := parseDigAnswers stdout recordType, error := none }

def queriedTypes : List RecordType := [.a, .aaaa, .https, .svcb]

/-- Runs every record type against one resolver. -/
def queryResolver (dig : String → String → RecordType → DigOutcome)
    (resolver name : String) : List ResolverResult :=
  queriedTypes.map (runDig dig resolver name)

inductive SteeringVerdict where
  | consistent
  | diverges
  | inconclusive
deriving DecidableEq

/-- The addresses of all the queries that answered. -/
def pooledAddresses (results : List ResolverResult) : Finset Str :=
  ((results.filter (·.answered)).map (·.endpointAddresses)).foldr (· ∪ ·) ∅

def decideVerdict (perResolver : List (List ResolverResult)) (resolverCount : Nat) :
    SteeringVerdict × String :=
  let answered := perResolver.filter fun results => results.any fun r => r.answered &&
    decide (r.endpointAddresses ≠ ∅)
  match answered.map pooledAddresses with
  | first :: second :: rest =>
    if (first :: second :: rest).all fun set => set = first then
      (.consistent, "all answering resolvers returned the same endpoint address set")
    else
      (.diverges, "resolvers returned different endpoint address sets for the same name -- this is steering divergence, " ++
        "not a fault in either resolver; any performance comparison spanning these resolvers measured different endpoints")
  | _ =>
    (.inconclusive, "only " ++ toString answered.length ++ " of " ++ toString resolverCount ++
      " resolvers returned endpoint addresses; steering divergence requires at least two answering resolvers to compare")

structure SteeringComparison where
  name : String
  perResolver : List (List ResolverResult)
  verdict : SteeringVerdict
  explanation : String

def compareSteering (dig : String → String → RecordType → DigOutcome) (name : String)
    (resolvers : List String) :
    SteeringComparison :=
  let perResolver := resolvers.map fun resolver => queryResolver dig resolver name
  let (verdict, explanation) := decideVerdict perResolver resolvers.length
  { name, perResolver, verdict, explanation }

section Pool
variable {results : List ResolverResult} {value : Str}

theorem mem_endpointAddresses {result : ResolverResult} :
    value ∈ result.endpointAddresses ↔ ∃ answer ∈ result.answers,
      (answer.recordType = .a ∨ answer.recordType = .aaaa) ∧ answer.value = value := by
  simp only [ResolverResult.endpointAddresses, List.mem_toFinset, List.mem_map, List.mem_filter,
    decide_eq_true_eq, and_assoc]

theorem mem_pooledAddresses :
    value ∈ pooledAddresses results ↔
      ∃ result ∈ results, result.answered = true ∧ value ∈ result.endpointAddresses := by
  unfold pooledAddresses
  induction results with
  | nil => simp
  | cons result rest ih =>
    cases answered : result.answered with
    | false => simpa [List.filter_cons, answered] using ih
    | true => simp [answered, ih]

/-- A resolver counts when one of its queries answered with an address. -/
theorem counts_iff : (results.any fun r => r.answered && decide (r.endpointAddresses ≠ ∅)) = true ↔
    pooledAddresses results ≠ ∅ := by
  rw [← Finset.nonempty_iff_ne_empty]
  constructor
  · intro counts
    obtain ⟨result, listed, both⟩ := List.any_eq_true.mp counts
    obtain ⟨answered, some⟩ := Bool.and_eq_true_iff.mp both
    obtain ⟨value, member⟩ := Finset.nonempty_iff_ne_empty.mpr (of_decide_eq_true some)
    exact ⟨value, mem_pooledAddresses.mpr ⟨result, listed, answered, member⟩⟩
  · rintro ⟨value, member⟩
    obtain ⟨result, listed, answered, member⟩ := mem_pooledAddresses.mp member
    refine List.any_eq_true.mpr ⟨result, listed,
      Bool.and_eq_true_iff.mpr ⟨answered, decide_eq_true ?_⟩⟩
    exact Finset.ne_empty_of_mem member

end Pool

section Verdict
variable {perResolver : List (List ResolverResult)} {resolverCount : Nat}

/-- The address sets that the verdict compares. -/
def endpointSets (perResolver : List (List ResolverResult)) : List (Finset Str) :=
  (perResolver.filter fun results => results.any fun r => r.answered &&
    decide (r.endpointAddresses ≠ ∅)).map pooledAddresses

theorem mem_endpointSets {set : Finset Str} :
    set ∈ endpointSets perResolver ↔
      set ≠ ∅ ∧ ∃ results ∈ perResolver, pooledAddresses results = set := by
  simp only [endpointSets, List.mem_map, List.mem_filter, counts_iff]
  constructor
  · rintro ⟨results, ⟨listed, some⟩, rfl⟩
    exact ⟨some, results, listed, rfl⟩
  · rintro ⟨some, results, listed, rfl⟩
    exact ⟨results, ⟨listed, some⟩, rfl⟩

theorem decideVerdict_of_sets :
    (decideVerdict perResolver resolverCount).1 =
      match endpointSets perResolver with
      | first :: second :: rest =>
        if (first :: second :: rest).all (· = first) then .consistent else .diverges
      | _ => .inconclusive := by
  unfold decideVerdict
  change (match endpointSets perResolver with
    | first :: second :: rest => _
    | _ => _ : SteeringVerdict × String).1 = _
  rcases endpointSets perResolver with _ | ⟨first, _ | ⟨second, rest⟩⟩
  · rfl
  · rfl
  · change (if _ then _ else _ : SteeringVerdict × String).1 = if _ then _ else _
    split <;> rfl

/-- The verdict compares what the resolvers with addresses pooled from all their queries. -/
theorem decideVerdict_diverges_iff :
    (decideVerdict perResolver resolverCount).1 = .diverges ↔
      ∃ first ∈ perResolver, ∃ second ∈ perResolver, pooledAddresses first ≠ ∅ ∧
        pooledAddresses second ≠ ∅ ∧
        pooledAddresses first ≠ pooledAddresses second := by
  have pairs : (∃ first ∈ perResolver, ∃ second ∈ perResolver, pooledAddresses first ≠ ∅ ∧
      pooledAddresses second ≠ ∅ ∧ pooledAddresses first ≠ pooledAddresses second) ↔
      ∃ first ∈ endpointSets perResolver, ∃ second ∈ endpointSets perResolver, first ≠ second := by
    simp only [mem_endpointSets]
    constructor
    · rintro ⟨first, listed, second, other, some, also, differ⟩
      exact ⟨_, ⟨some, first, listed, rfl⟩, _, ⟨also, second, other, rfl⟩, differ⟩
    · rintro ⟨_, ⟨some, first, listed, rfl⟩, _, ⟨also, second, other, rfl⟩, differ⟩
      exact ⟨first, listed, second, other, some, also, differ⟩
  rw [pairs, decideVerdict_of_sets]
  rcases endpointSets perResolver with _ | ⟨first, _ | ⟨second, rest⟩⟩
  · simp
  · simp
  · by_cases same : ∀ set ∈ first :: second :: rest, set = first
    · have all : (first :: second :: rest).all (· = first) = true :=
        List.all_eq_true.mpr fun set listed =>
          decide_eq_true (same set listed)
      simp only [all, if_true, reduceCtorEq, false_iff]
      rintro ⟨one, listed, other, also, differ⟩
      exact differ ((same one listed).trans (same other also).symm)
    · have some : (first :: second :: rest).all (· = first) ≠ true :=
        fun all => same fun set listed =>
          of_decide_eq_true (List.all_eq_true.mp all set listed)
      simp only [if_neg some, true_iff]
      push Not at same
      obtain ⟨set, listed, differ⟩ := same
      exact ⟨set, listed, first, List.mem_cons_self, differ⟩

/-- Two resolvers with one nonempty address set are consistent. -/
theorem decideVerdict_consistent {first second : List ResolverResult}
    (some : pooledAddresses first ≠ ∅) (same : pooledAddresses second = pooledAddresses first) :
    (decideVerdict [first, second] resolverCount).1 = .consistent := by
  have sets : endpointSets [first, second] = [pooledAddresses first, pooledAddresses second] := by
    unfold endpointSets
    rw [List.filter_eq_self.mpr]
    · rfl
    · simp only [List.mem_cons, List.not_mem_nil, or_false, forall_eq_or_imp, forall_eq, counts_iff]
      exact ⟨some, same ▸ some⟩
  rw [decideVerdict_of_sets, sets, same]
  simp

end Verdict

end FragglePacket.NetworkTests
