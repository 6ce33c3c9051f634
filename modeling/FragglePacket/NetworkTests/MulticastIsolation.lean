import FragglePacket.Lists.Tally
import FragglePacket.Text.Tokens
import FragglePacket.Text.Unicode

/-! Discovery responses, tallied by the class of service each comes from. -/

namespace FragglePacket.NetworkTests

open FragglePacket.Lists FragglePacket.Text FragglePacket.Wire

inductive ServiceClass where
  | http
  | printer
  | airplay
  | chromecast
  | other
  deriving DecidableEq

structure ResponderTally where
  totalResponses : UInt32
  byClass : List (ServiceClass × UInt32)
  deriving DecidableEq

/-- The class of a record, by its whole text in lower case. -/
def classifyText (text : Str) : ServiceClass :=
  if contains text "_ipp".toList || contains text "_printer".toList then .printer
  else if contains text "_airplay".toList then .airplay
  else if contains text "_googlecast".toList then .chromecast
  else if contains text "_http".toList || contains text "upnp".toList then .http
  else .other

def classifyResponse (tables : CaseTables) (raw : Bytes) : ServiceClass :=
  classifyText (tables.toLowercase (fromUtf8Lossy raw))

/-- The total is cut to 32 bits, and the counts wrap there. -/
def tallyResponses (tables : CaseTables) (raws : List Bytes) : ResponderTally where
  totalResponses := UInt32.ofNat raws.length
  byClass :=
    raws.foldl (fun byClass raw => countKey 1 (· + 1) (classifyResponse tables raw) byClass) []

section Names

/-- A DNS-SD service type, which is ASCII. -/
structure ServiceType where
  text : Str
  plain : text.all (fun c => decide (c.toNat < 128)) = true

theorem ServiceType.ascii (service : ServiceType) :
    ∀ c ∈ service.text, c.toNat < 128 := fun c member =>
  of_decide_eq_true (List.all_eq_true.mp service.plain c member)

def ServiceType.Prints (service : ServiceType) : Prop :=
  contains (service.text.map Char.toLower) "_ipp".toList = true ∨
    contains (service.text.map Char.toLower) "_printer".toList = true

/-- A response of an instance of some name, with the service it offers. -/
def record (response : Str × ServiceType) : Bytes :=
  encodeUtf8 (response.1 ++ '.' :: response.2.text)

/-- Any other names would have been tallied alike. -/
def NamesIgnored (tables : CaseTables) (responses : List (Str × ServiceType)) : Prop :=
  ∀ others : List (Str × ServiceType), others.map (·.2) = responses.map (·.2) →
    tallyResponses tables (others.map record) = tallyResponses tables (responses.map record)

/-- The tally counts every response once, under its class, whatever their order. -/
structure WellTallied (tables : CaseTables) (raws : List Bytes) : Prop where
  total : (tallyResponses tables raws).totalResponses.toNat = raws.length
  sum : ((tallyResponses tables raws).byClass.map (·.2.toNat)).sum =
    (tallyResponses tables raws).totalResponses.toNat
  positive : ∀ entry ∈ (tallyResponses tables raws).byClass, 0 < entry.2
  distinct : ((tallyResponses tables raws).byClass.map (·.1)).Nodup
  orderFree : ∀ shuffled : List Bytes, shuffled.Perm raws →
    (tallyResponses tables shuffled).totalResponses = (tallyResponses tables raws).totalResponses ∧
      (tallyResponses tables shuffled).byClass.Perm (tallyResponses tables raws).byClass

variable {tables : CaseTables}

theorem byClass_eq (raws : List Bytes) : (tallyResponses tables raws).byClass =
    tally 1 (· + 1) (raws.map (classifyResponse tables)) := by
  rw [tally, List.foldl_map]
  rfl

private theorem ofNat_next (count : Nat) : UInt32.ofNat count + 1 = UInt32.ofNat (count + 1) :=
  (UInt32.ofNat_add count 1).symm

theorem byClass_counts (raws : List Bytes) : (tallyResponses tables raws).byClass =
    (firstMet (raws.map (classifyResponse tables))).map fun kind =>
      (kind, UInt32.ofNat ((raws.map (classifyResponse tables)).count kind)) := by
  have begun : UInt32.ofNat 1 = 1 := rfl
  rw [byClass_eq, tally_eq begun fun count _ => ofNat_next count]

theorem classifyResponse_record (response : Str × ServiceType) :
    classifyResponse tables (record response) =
    classifyText (tables.toLowercase (response.1 ++ '.' :: response.2.text)) := by
  rw [classifyResponse, record, fromUtf8Lossy_encodeUtf8]

theorem classifyText_eq_printer_iff {text : Str} : classifyText text = .printer ↔
    contains text "_ipp".toList = true ∨ contains text "_printer".toList = true := by
  unfold classifyText
  rw [← Bool.or_eq_true]
  cases contains text "_ipp".toList || contains text "_printer".toList with
  | true => simp
  | false =>
    refine iff_of_false ?_ Bool.false_ne_true
    rw [if_neg Bool.false_ne_true]
    split_ifs <;> simp

/-- A service that prints is a printer under every name. -/
theorem classify_printing {service : ServiceType} (prints : service.Prints) (name : Str) :
    classifyResponse tables (record (name, service)) = .printer := by
  obtain ⟨front, lower⟩ := @CaseTables.lowercaseFrom_append tables [] (name ++ ['.']) service.text
  have service' :=
    @CaseTables.lowercaseFrom_ascii tables _ service.ascii ((name ++ ['.']).reverse ++ []) []
  simp only [List.append_nil] at service' lower
  rw [service', List.append_assoc, List.singleton_append] at lower
  rw [classifyResponse_record, classifyText_eq_printer_iff]
  dsimp only
  rw [CaseTables.toLowercase, lower]
  exact prints.imp (fun found => contains_append_left front (contains_append_right _ found))
    fun found => contains_append_left front (contains_append_right _ found)

/-- Without a name, a service that does not print is no printer. -/
theorem classify_unnamed {service : ServiceType} (other : ¬ service.Prints) :
    classifyResponse tables (record ([], service)) ≠ .printer := by
  have ascii : ∀ c ∈ '.' :: service.text, c.toNat < 128 :=
    List.forall_mem_cons.mpr ⟨by decide, service.ascii⟩
  -- no pattern begins with the dot
  have dotted (letter : Char) (rest : Str) (apart : letter ≠ '.') :
      contains ('.' :: service.text.map Char.toLower) (letter :: rest) =
        contains (service.text.map Char.toLower) (letter :: rest) := by
    simp [contains, List.isPrefixOf, apart]
  rw [classifyResponse_record, List.nil_append, CaseTables.toLowercase_ascii ascii,
    List.map_cons, Ne, classifyText_eq_printer_iff]
  change ¬ (contains ('.' :: _) ('_' :: "ipp".toList) = true ∨
    contains ('.' :: _) ('_' :: "printer".toList) = true)
  rw [dotted _ _ (by decide), dotted _ _ (by decide)]
  exact other

theorem classify_named_printer (service : ServiceType) :
    classifyResponse tables (record ("_ipp".toList, service)) = .printer := by
  have ascii : ∀ c ∈ "_ipp".toList, c.toNat < 128 := ServiceType.ascii ⟨"_ipp".toList, by decide⟩
  have lower : tables.toLowercase ("_ipp".toList ++ '.' :: service.text) =
      "_ipp".toList ++ tables.lowercaseFrom ("_ipp".toList.reverse ++ []) ('.' :: service.text) :=
    CaseTables.lowercaseFrom_ascii ascii [] _
  rw [classifyResponse_record, classifyText_eq_printer_iff, lower]
  exact .inl (contains_append_right _ (by decide))

/-- A tally is that of the classes it met. -/
theorem tallyResponses_congr {raws others : List Bytes}
    (same : raws.map (classifyResponse tables) = others.map (classifyResponse tables)) :
    tallyResponses tables raws = tallyResponses tables others := by
  have length : raws.length = others.length := by
    simpa only [List.length_map] using congrArg List.length same
  have counts : (tallyResponses tables raws).byClass = (tallyResponses tables others).byClass := by
    rw [byClass_eq, byClass_eq, same]
  exact (ResponderTally.mk.injEq ..).mpr ⟨congrArg UInt32.ofNat length, counts⟩

theorem namesIgnored_of_prints {responses : List (Str × ServiceType)}
    (prints : ∀ response ∈ responses, response.2.Prints) :
    NamesIgnored tables responses := by
  have printers (items : List (Str × ServiceType))
      (services : items.map (·.2) = responses.map (·.2)) :
      (items.map record).map (classifyResponse tables) = (responses.map (·.2)).map fun _ =>
        .printer := by
    rw [← services, List.map_map, List.map_map]
    refine List.map_congr_left fun item listed => ?_
    have offered : item.2 ∈ responses.map (·.2) := services ▸ List.mem_map.mpr ⟨item, listed, rfl⟩
    obtain ⟨response, inResponses, own⟩ := List.mem_map.mp offered
    exact classify_printing (own ▸ prints response inResponses) item.1
  intro others same
  exact tallyResponses_congr ((printers others same).trans (printers responses rfl).symm)

/-- Where some service is no printer, one of its names makes it one and another does not. -/
theorem prints_of_namesIgnored {responses : List (Str × ServiceType)}
    (ignored : NamesIgnored tables responses) :
    ∀ response ∈ responses, response.2.Prints := by
  intro response member
  by_contra other
  obtain ⟨front, back, rfl⟩ := List.append_of_mem member
  have services (name : Str) : (front ++ (name, response.2) :: back).map (·.2) =
      (front ++ response :: back).map (·.2) := by
    rw [List.map_append, List.map_append, List.map_cons, List.map_cons]
  have same := (ignored _ (services [])).trans (ignored _ (services "_ipp".toList)).symm
  have counts := congrArg ResponderTally.byClass same
  have begun : UInt32.ofNat 1 = 1 := rfl
  rw [byClass_eq, byClass_eq] at counts
  have printers :=
    value_count_eq_of_tally_eq begun (fun count _ => ofNat_next count) counts .printer
  simp only [List.map_append, List.map_cons, List.count_append, classify_named_printer,
    List.count_cons_self, List.count_cons_of_ne (classify_unnamed other)] at printers
  have wrapped := congrArg UInt32.toNat printers
  rw [UInt32.toNat_ofNat', UInt32.toNat_ofNat'] at wrapped
  omega

end Names

section Counts
variable {tables : CaseTables} {raws : List Bytes}

theorem wellTallied_of_fits (fits : raws.length < 2 ^ 32) : WellTallied tables raws := by
  have total : (tallyResponses tables raws).totalResponses.toNat = raws.length :=
    UInt32.toNat_ofNat_of_lt' fits
  have counted (kind : ServiceClass) :
      (UInt32.ofNat ((raws.map (classifyResponse tables)).count kind)).toNat =
      (raws.map (classifyResponse tables)).count kind := by
    have within :=
      (List.count_le_length (a := kind) (l := raws.map (classifyResponse tables))).trans_eq
        (List.length_map _)
    exact UInt32.toNat_ofNat_of_lt' (within.trans_lt fits)
  refine ⟨total, ?_, ?_, ?_, ?_⟩
  · rw [total, byClass_counts, List.map_map]
    have each : (fun entry : ServiceClass × UInt32 => entry.2.toNat) ∘ (fun kind =>
        (kind, UInt32.ofNat ((raws.map (classifyResponse tables)).count kind))) =
        (raws.map (classifyResponse tables)).count := funext counted
    rw [each, sum_count_firstMet, List.length_map]
  · intro entry member
    rw [byClass_counts] at member
    obtain ⟨kind, met, rfl⟩ := List.mem_map.mp member
    have positive := List.count_pos_iff.mpr (mem_firstMet.mp met)
    exact UInt32.lt_iff_toNat_lt.mpr ((counted kind).symm ▸ positive)
  · rw [byClass_counts, List.map_map]
    simpa only [Function.comp_def, List.map_id'] using firstMet_nodup
      (raws.map (classifyResponse tables))
  · intro shuffled perm
    have classes := perm.map (classifyResponse tables)
    refine ⟨congrArg UInt32.ofNat perm.length_eq, ?_⟩
    rw [byClass_counts, byClass_counts]
    simp only [classes.count_eq]
    exact (firstMet_perm classes).map _

theorem wellTallied_iff : WellTallied tables raws ↔ raws.length < 2 ^ 32 :=
  ⟨fun holds => holds.total ▸ UInt32.toNat_lt _, wellTallied_of_fits⟩

end Counts

/-- Tallies disregard the names of devices exactly where every service is a printer's, and count
every response exactly up to the bound of their total. -/
theorem tallyResponses_iff (tables : CaseTables) :
    (∀ responses, NamesIgnored tables responses ↔ ∀ response ∈ responses, response.2.Prints) ∧
      ∀ raws, WellTallied tables raws ↔ raws.length < 2 ^ 32 :=
  ⟨fun _ => ⟨prints_of_namesIgnored, namesIgnored_of_prints⟩, fun _ => wellTallied_iff⟩

def smbService : ServiceType := ⟨"_smb._tcp.local".toList, by decide⟩

/-- No character here is beyond ASCII. -/
def asciiTables : CaseTables := ⟨fun c => [c], fun _ => false, fun _ => false⟩

/-- A file server of that name is tallied as a printer. -/
theorem server_named_printer :
    ¬ NamesIgnored asciiTables [("James's MacBook".toList, smbService)] := by
  intro ignored
  have same := ignored [("my_printer".toList, smbService)] rfl
  exact absurd same (by decide)

end FragglePacket.NetworkTests
