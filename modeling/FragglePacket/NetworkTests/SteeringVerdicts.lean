import FragglePacket.NetworkTests.DnsSteering

/-! When a steering verdict rests on a query that failed. -/

namespace FragglePacket.NetworkTests

open FragglePacket.Text

/-- The queries of a resolver stand in the order that `queryResolver` runs them. -/
def Typed (results : List ResolverResult) : Prop :=
  ∀ (position : Nat) (result : ResolverResult), results[position]? = some result →
    ∀ answer ∈ result.answers, queriedTypes[position]? = some answer.recordType

/-- The query for a record type. -/
def queryFor (results : List ResolverResult) (recordType : RecordType) : Option ResolverResult :=
  results[queriedTypes.idxOf recordType]?

/-- The addresses of a record type, if its query answered. -/
def addressesOf (results : List ResolverResult) (recordType : RecordType) : Option (Finset Str) :=
  ((queryFor results recordType).filter (·.answered)).map (·.endpointAddresses)

def addressTypes : List RecordType := [.a, .aaaa]

/-- Both resolvers answered an address type, with different addresses. -/
def Divergent (first second : List ResolverResult) : Prop :=
  ∃ recordType ∈ addressTypes, ∃ one ∈ addressesOf first recordType,
    ∃ other ∈ addressesOf second recordType, one ≠ other

theorem mem_addressTypes {recordType : RecordType} :
    recordType ∈ addressTypes ↔ recordType = .a ∨ recordType = .aaaa := by
  simp [addressTypes]

theorem recordType_of_parsed {text : Str} {requested : RecordType} {answer : AnswerRecord}
    (parsed : answer ∈ parseDigAnswers text requested) : answer.recordType = requested := by
  obtain ⟨line, -, read⟩ := List.mem_filterMap.mp parsed
  dsimp only at read
  split at read
  · cases read
  · exact (Option.some.inj read) ▸ rfl

theorem recordType_of_runDig {dig : String → String → RecordType → DigOutcome}
    {resolver name : String} {recordType : RecordType} {answer : AnswerRecord}
    (given : answer ∈ (runDig dig resolver name recordType).answers) :
    answer.recordType = recordType := by
  unfold runDig at given
  split at given
  · exact absurd given List.not_mem_nil
  · exact absurd given List.not_mem_nil
  · exact recordType_of_parsed given

theorem queryResolver_typed (dig : String → String → RecordType → DigOutcome)
    (resolver name : String) :
    Typed (queryResolver dig resolver name) := by
  intro position result found answer given
  rw [queryResolver, List.getElem?_map] at found
  obtain ⟨recordType, queried, rfl⟩ := Option.map_eq_some_iff.mp found
  rw [queried, recordType_of_runDig given]

section Pool
variable {results : List ResolverResult}

theorem mem_addressesOf {recordType : RecordType} {set : Finset Str} :
    set ∈ addressesOf results recordType ↔
      ∃ result, queryFor results recordType = some result ∧ result.answered = true ∧
        result.endpointAddresses = set := by
  simp only [addressesOf, Option.mem_def, Option.map_eq_some_iff, Option.filter_eq_some_iff,
    and_assoc]

theorem pooled_of_type {recordType : RecordType} {set : Finset Str}
    (given : set ∈ addressesOf results recordType) :
    set ⊆ pooledAddresses results := by
  obtain ⟨result, found, answered, rfl⟩ := mem_addressesOf.mp given
  exact fun value member => mem_pooledAddresses.mpr
    ⟨result, List.mem_of_getElem? found, answered, member⟩

theorem type_of_pooled (typed : Typed results) {value : Str}
    (pooled : value ∈ pooledAddresses results) :
    ∃ recordType ∈ addressTypes, ∃ set ∈ addressesOf results recordType, value ∈ set := by
  obtain ⟨result, listed, answered, member⟩ := mem_pooledAddresses.mp pooled
  obtain ⟨answer, given, address, -⟩ := mem_endpointAddresses.mp member
  obtain ⟨position, found⟩ := List.mem_iff_getElem?.mp listed
  have queried := typed position result found answer given
  have place : queriedTypes.idxOf answer.recordType = position := by
    obtain ⟨short, same⟩ := List.getElem?_eq_some_iff.mp queried
    rw [← same]
    exact (by decide : queriedTypes.Nodup).idxOf_getElem position short
  refine ⟨answer.recordType, mem_addressTypes.mpr address, result.endpointAddresses, ?_, member⟩
  exact mem_addressesOf.mpr ⟨result, by rw [queryFor, place, found], answered, rfl⟩

/-- Where no type tells the resolvers apart, only a type that one of them lacks can. -/
theorem pooled_subset {first second : List ResolverResult} (typed : Typed first)
    (agree : ¬ Divergent first second)
    (lacking : ∀ recordType ∈ addressTypes, ∀ set ∈ addressesOf first recordType,
      addressesOf second recordType = none → set ⊆ pooledAddresses second) :
    pooledAddresses first ⊆ pooledAddresses second := by
  intro value pooled
  obtain ⟨recordType, address, set, given, member⟩ := type_of_pooled typed pooled
  cases other : addressesOf second recordType with
  | none => exact lacking recordType address set given other member
  | some also =>
    have same : set = also := by
      by_contra differ
      exact agree ⟨recordType, address, set, given, also, other, differ⟩
    exact pooled_of_type other (same ▸ member)

end Pool

theorem Divergent.symm {first second : List ResolverResult} (apart : Divergent first second) :
    Divergent second first := by
  obtain ⟨recordType, address, one, given, other, also, differ⟩ := apart
  exact ⟨recordType, address, other, also, one, given, differ.symm⟩

/-- The verdict is sound exactly where two resolvers differ on a type that both
answered, or where what a resolver answered for a type that another one failed is among
the other's remaining addresses. -/
theorem divergence_of_answers_iff (perResolver : List (List ResolverResult)) (resolverCount : Nat)
    (typed : ∀ results ∈ perResolver, Typed results) :
    ((decideVerdict perResolver resolverCount).1 = .diverges →
        ∃ first ∈ perResolver, ∃ second ∈ perResolver, Divergent first second) ↔
      (∃ first ∈ perResolver, ∃ second ∈ perResolver, Divergent first second) ∨
        ∀ first ∈ perResolver, ∀ second ∈ perResolver, pooledAddresses second ≠ ∅ →
          ∀ recordType ∈ addressTypes, ∀ set ∈ addressesOf first recordType,
            addressesOf second recordType = none → set ⊆ pooledAddresses second := by
  rw [decideVerdict_diverges_iff]
  constructor
  · intro sound
    by_cases apart : ∃ first ∈ perResolver, ∃ second ∈ perResolver, Divergent first second
    · exact Or.inl apart
    · right
      intro first listed second other some recordType address set given failed value member
      have pooled : value ∈ pooledAddresses first := pooled_of_type given member
      by_cases same : pooledAddresses first = pooledAddresses second
      · exact same ▸ pooled
      · exact absurd (sound ⟨first, listed, second, other, Finset.ne_empty_of_mem pooled, some,
          same⟩) apart
  · rintro (apart | lacking) ⟨first, listed, second, other, some, also, differ⟩
    · exact apart
    · by_contra agree
      have apart : ∀ one ∈ perResolver, ∀ two ∈ perResolver, ¬ Divergent one two :=
        fun one here two there both =>
          agree ⟨one, here, two, there, both⟩
      apply differ
      apply Finset.Subset.antisymm
      · exact pooled_subset (typed first listed) (apart first listed second other)
          (lacking first listed second other also)
      · exact pooled_subset (typed second other) (apart second other first listed)
          (lacking second other first listed some)

section PartialFailure

def addressAnswer (recordType : RecordType) (value : String) : AnswerRecord :=
  { recordType, value := value.toList, ttlSecs := some 60 }

/-- A resolver that answered A, and AAAA unless that query failed. -/
def partialResults (resolver : String) (v6 : Option String) : List ResolverResult :=
  [{ resolver, answers := [addressAnswer .a "140.82.112.3"], error := none },
    match v6 with
    | none => { resolver, answers := [], error := some "dig exited with an error" }
    | some value => { resolver, answers := [addressAnswer .aaaa value], error := none }]

theorem partialResults_typed (resolver : String) (v6 : Option String) :
    Typed (partialResults resolver v6) := by
  intro position result found answer given
  match position, v6 with
  | 0, _ =>
    obtain rfl := Option.some.inj found
    rw [List.mem_singleton.mp given]
    rfl
  | 1, none =>
    obtain rfl := Option.some.inj found
    exact absurd given List.not_mem_nil
  | 1, some value =>
    obtain rfl := Option.some.inj found
    rw [List.mem_singleton.mp given]
    rfl
  | position + 2, _ => exact absurd found (by simp [partialResults])

/-- Both resolvers answered AAAA, differently. -/
def steered : List (List ResolverResult) :=
  [partialResults "1.1.1.1" (some "2606::1"), partialResults "8.8.8.8" (some "2606::2")]

theorem divergence_of_answers_iff_steered :
    ((decideVerdict steered 2).1 = .diverges → ∃ first ∈ steered, ∃ second ∈ steered,
      Divergent first second) ↔
      (∃ first ∈ steered, ∃ second ∈ steered, Divergent first second) ∨
        ∀ first ∈ steered, ∀ second ∈ steered, pooledAddresses second ≠ ∅ →
          ∀ recordType ∈ addressTypes,
          ∀ set ∈ addressesOf first recordType, addressesOf second recordType = none →
            set ⊆ pooledAddresses second := by
  apply divergence_of_answers_iff steered 2
  simp only [steered, List.mem_cons, List.not_mem_nil, or_false, forall_eq_or_imp, forall_eq]
  exact ⟨partialResults_typed _ _, partialResults_typed _ _⟩

/-- The second resolver's AAAA query failed, and what the other one answered
for AAAA counts against it. -/
theorem failed_query_diverges :
    (decideVerdict [partialResults "1.1.1.1" (some "2606::1"), partialResults "8.8.8.8" none] 2).1 =
      .diverges ∧
      ¬ ∃ first ∈ [partialResults "1.1.1.1" (some "2606::1"), partialResults "8.8.8.8" none],
        ∃ second ∈ [partialResults "1.1.1.1" (some "2606::1"), partialResults "8.8.8.8" none],
          ∃ recordType ∈ addressTypes, ∃ one ∈ addressesOf first recordType,
            ∃ other ∈ addressesOf second recordType,
            one ≠ other := by
  decide

end PartialFailure

end FragglePacket.NetworkTests
