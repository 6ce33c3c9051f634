import FragglePacket.NetworkTests.SteeringVerdicts

/-! What `dig` prints of an alias chain, and the addresses read from it. -/

namespace FragglePacket.NetworkTests

open FragglePacket.Text

/-- A printed record: `name ttl IN TYPE value...`. -/
structure DigRecord where
  typeField : Str
  rdata : Str
deriving DecidableEq

def digRecords (text : Str) : List DigRecord :=
  (lines text).filterMap fun line =>
    match splitWhitespace line with
    | _name :: _ttl :: _in :: typeField :: value :: more =>
      some { typeField, rdata := [' '].intercalate (value :: more) }
    | _ => none

/-- The values of the records whose own TYPE is the requested one. -/
def rdataOf (text : Str) (requested : RecordType) : Finset Str :=
  (((digRecords text).filter (·.typeField = requested.digArg.toList)).map (·.rdata)).toFinset

/-- A record of another type only repeats a value of the requested type. -/
def NoAliases (text : Str) (requested : RecordType) : Prop :=
  ∀ record ∈ digRecords text, record.typeField ≠ requested.digArg.toList →
    record.rdata ∈ rdataOf text requested

section Parsed
variable {text : Str} {requested : RecordType} {value : Str}

theorem mem_rdataOf :
    value ∈ rdataOf text requested ↔
      ∃ record ∈ digRecords text, record.typeField = requested.digArg.toList ∧
        record.rdata = value := by
  simp only [rdataOf, List.mem_toFinset, List.mem_map, List.mem_filter, decide_eq_true_eq,
    and_assoc]

/-- Every record becomes an answer, whatever its type. -/
theorem parseDigAnswers_values (text : Str) (requested : RecordType) :
    (parseDigAnswers text requested).map (·.value) = (digRecords text).map (·.rdata) := by
  simp only [parseDigAnswers, digRecords, List.map_filterMap]
  congr 1
  funext line
  rcases splitWhitespace line with _ |
    ⟨name, _ | ⟨ttl, _ | ⟨inClass, _ | ⟨typeField, _ | ⟨value, more⟩⟩⟩⟩⟩
  case cons.cons.cons.cons.cons =>
    rw [if_neg (by simp only [List.length_cons]; omega)]
    rfl
  all_goals rfl

theorem mem_parsedAddresses {resolver : String} {error : Option String}
    (address : requested ∈ addressTypes) :
    value ∈ (ResolverResult.mk resolver (parseDigAnswers text requested) error).endpointAddresses ↔
      ∃ record ∈ digRecords text, record.rdata = value := by
  rw [mem_endpointAddresses, ← List.mem_map (f := DigRecord.rdata),
    ← parseDigAnswers_values text requested, List.mem_map]
  constructor
  · rintro ⟨answer, parsed, -, same⟩
    exact ⟨answer, parsed, same⟩
  · rintro ⟨answer, parsed, same⟩
    exact ⟨answer, parsed, recordType_of_parsed parsed ▸ mem_addressTypes.mp address, same⟩

theorem parsedAddresses_own_iff {resolver : String} {error : Option String}
    (address : requested ∈ addressTypes) :
    (ResolverResult.mk resolver (parseDigAnswers text requested) error).endpointAddresses =
      rdataOf text requested ↔
      NoAliases text requested := by
  constructor
  · intro own record listed _
    rw [← own]
    exact (mem_parsedAddresses address).mpr ⟨record, listed, rfl⟩
  · intro noAliases
    ext value
    rw [mem_parsedAddresses address, mem_rdataOf]
    constructor
    · rintro ⟨record, listed, rfl⟩
      by_cases own : record.typeField = requested.digArg.toList
      · exact ⟨record, listed, own, rfl⟩
      · exact mem_rdataOf.mp (noAliases record listed own)
    · rintro ⟨record, listed, -, same⟩
      exact ⟨record, listed, same⟩

end Parsed

section Compared
variable {dig : String → String → RecordType → DigOutcome} {name : String}
  {text : String → RecordType → Str}

theorem runDig_printed (printed : ∀ resolver recordType, dig resolver name recordType =
    .printed (text resolver recordType))
    (resolver : String) (recordType : RecordType) :
    runDig dig resolver name recordType =
      { resolver, answers := parseDigAnswers (text resolver recordType) recordType,
        error := none } := by
  rw [runDig, printed]

/-- The pool of a resolver is its A and AAAA answers. -/
theorem mem_pooled_printed
    (printed : ∀ resolver recordType, dig resolver name recordType =
      .printed (text resolver recordType))
    {resolver : String} {value : Str} :
    value ∈ pooledAddresses (queryResolver dig resolver name) ↔
      ∃ requested ∈ addressTypes, value ∈
        (runDig dig resolver name requested).endpointAddresses := by
  rw [mem_pooledAddresses]
  constructor
  · rintro ⟨result, listed, -, member⟩
    obtain ⟨recordType, -, rfl⟩ := List.mem_map.mp listed
    obtain ⟨answer, given, address, -⟩ := mem_endpointAddresses.mp member
    rw [recordType_of_runDig given] at address
    exact ⟨recordType, mem_addressTypes.mpr address, member⟩
  · rintro ⟨requested, address, member⟩
    have queried : requested ∈ queriedTypes :=
      (by decide : ∀ recordType ∈ addressTypes, recordType ∈ queriedTypes) requested address
    refine ⟨_, List.mem_map_of_mem queried, ?_, member⟩
    rw [runDig_printed printed]
    rfl

end Compared

/-- The addresses read for a type are its own records' values exactly where no other record brings a
new value, and then two resolvers with the same addresses are consistent. -/
theorem endpointAddresses_own_iff (dig : String → String → RecordType → DigOutcome) (name : String)
    (text : String → RecordType → Str)
    (printed : ∀ resolver recordType, dig resolver name recordType =
      .printed (text resolver recordType))
    (first second : String) :
    (∀ requested ∈ addressTypes,
      (runDig dig first name requested).endpointAddresses =
        rdataOf (text first requested) requested ↔
        NoAliases (text first requested) requested) ∧
    ((∀ requested ∈ addressTypes,
        NoAliases (text first requested) requested ∧ NoAliases (text second requested) requested ∧
          rdataOf (text second requested) requested = rdataOf (text first requested) requested) →
      (∃ requested ∈ addressTypes, rdataOf (text first requested) requested ≠ ∅) →
      (compareSteering dig name [first, second]).verdict = .consistent) := by
  have own : ∀ resolver, ∀ requested ∈ addressTypes,
      ((runDig dig resolver name requested).endpointAddresses =
        rdataOf (text resolver requested) requested ↔
        NoAliases (text resolver requested) requested) := fun resolver requested address => by
    rw [runDig_printed printed]
    exact parsedAddresses_own_iff address
  refine ⟨own first, ?_⟩
  rintro alike ⟨requested, address, some⟩
  change (decideVerdict [queryResolver dig first name, queryResolver dig second name] 2).1 =
    .consistent
  apply decideVerdict_consistent
  · obtain ⟨value, member⟩ := Finset.nonempty_iff_ne_empty.mpr some
    rw [← (own first requested address).mpr (alike requested address).1] at member
    exact Finset.ne_empty_of_mem ((mem_pooled_printed printed).mpr ⟨requested, address, member⟩)
  · ext value
    rw [mem_pooled_printed printed, mem_pooled_printed printed]
    refine exists_congr fun recordType => and_congr_right fun queried => ?_
    obtain ⟨here, there, same⟩ := alike recordType queried
    rw [(own second recordType queried).mpr there, (own first recordType queried).mpr here, same]

section Aliases

/-- A name behind an alias, and the alias's address. -/
def aliased (target : String) : Str :=
  ("www.example.com. 60 IN CNAME " ++ target ++ "\n" ++ target ++ " 60 IN A 192.0.2.1\n").toList

/-- The answers of a name with one address of each kind. -/
def direct : RecordType → Str
  | .a => "www.example.com. 60 IN A 192.0.2.1\n".toList
  | .aaaa => "www.example.com. 60 IN AAAA 2001:db8::1\n".toList
  | _ => []

theorem endpointAddresses_own_iff_direct :
    (runDig (fun _ _ recordType => .printed (direct recordType))
      "1.1.1.1" "www" .aaaa).endpointAddresses =
        rdataOf (direct .aaaa) .aaaa ∧
      (compareSteering (fun _ _ recordType => .printed (direct recordType)) "www"
        ["1.1.1.1", "8.8.8.8"]).verdict =
        .consistent := by
  obtain ⟨own, consistent⟩ :=
    endpointAddresses_own_iff (fun _ _ recordType => .printed (direct recordType)) "www"
      (fun _ recordType => direct recordType) (fun _ _ => rfl) "1.1.1.1" "8.8.8.8"
  have unaliased : ∀ requested ∈ addressTypes, NoAliases (direct requested) requested := by
    unfold NoAliases
    decide +kernel
  refine ⟨(own .aaaa (by decide)).mpr (unaliased .aaaa (by decide)), consistent ?_ ?_⟩
  · exact fun requested address => ⟨unaliased requested address, unaliased requested address, rfl⟩
  · exact ⟨.a, by decide, by decide +kernel⟩

/-- Two resolvers reach the same address through different aliases, and the
aliases count as addresses. -/
theorem aliases_diverge :
    (ResolverResult.mk "1.1.1.1" (parseDigAnswers
      (aliased "a.cdn.net.") .a) none).endpointAddresses ≠
        rdataOf (aliased "a.cdn.net.") .a ∧
      rdataOf (aliased "a.cdn.net.") .a = rdataOf (aliased "b.cdn.net.") .a ∧
      (decideVerdict [[⟨"1.1.1.1", parseDigAnswers (aliased "a.cdn.net.") .a, none⟩],
        [⟨"8.8.8.8", parseDigAnswers (aliased "b.cdn.net.") .a, none⟩]] 2).1 = .diverges := by
  decide +kernel

end Aliases

end FragglePacket.NetworkTests
