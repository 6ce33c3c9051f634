import FragglePacket.Lists.Update
import FragglePacket.NetworkTests.DhcpLifecycle

/-! Packet dumps line by line, and what the options of one say of the lease. -/

namespace FragglePacket.NetworkTests

open FragglePacket.Lists FragglePacket.Text

/-- The fields in front of the options. -/
inductive HeaderKey where
  | op
  | htype
  | hlen
  | hops
  | xid
  | secs
  | ciaddr
  | yiaddr
  | siaddr
  | giaddr
  | chaddr
  | sname
  | file
  deriving DecidableEq

def HeaderKey.text : HeaderKey → Str
  | op => "op".toList
  | htype => "htype".toList
  | hlen => "hlen".toList
  | hops => "hops".toList
  | xid => "xid".toList
  | secs => "secs".toList
  | ciaddr => "ciaddr".toList
  | yiaddr => "yiaddr".toList
  | siaddr => "siaddr".toList
  | giaddr => "giaddr".toList
  | chaddr => "chaddr".toList
  | sname => "sname".toList
  | file => "file".toList

/-- Text that does not end its line. -/
structure LineText where
  text : Str
  single : '\n' ∉ text

structure DhcpOption where
  name : Str
  type : Str
  value : Str
  named : name ≠ []
  solid : ∀ c ∈ name, isWhitespace c = false
  colon : ':' ∉ name ++ type
  single : '\n' ∉ name ++ type ++ value

inductive DumpLine where
  | header (key : HeaderKey) (value : LineText)
  | optionsFollow
  | optionsCount (count : Nat)
  | option (given : DhcpOption)
  | ending

namespace DhcpOption

def text (given : DhcpOption) : Str :=
  given.name ++ " (".toList ++ given.type ++ "): ".toList ++ given.value

/-- The value as a whole. -/
def whole (given : DhcpOption) : Str := trim given.value

/-- The value in front of its first colon. -/
def cut (given : DhcpOption) : Str := trim (given.value.takeWhile (· ≠ ':'))

end DhcpOption

namespace DumpLine

def text : DumpLine → Str
  | header key value => key.text ++ " = ".toList ++ value.text
  | optionsFollow => "options:".toList
  | optionsCount count => "Options count is ".toList ++ Nat.toDigits 10 count
  | option given => given.text
  | ending => "end (none):".toList

def given? : DumpLine → Option DhcpOption
  | option given => some given
  | _ => none

end DumpLine

/-- A dump that names no option twice. -/
structure Dump where
  lines : List DumpLine
  distinct : ((lines.filterMap DumpLine.given?).map (·.name)).Nodup

namespace Dump
variable (dump : Dump)

def text : Str := unlines (dump.lines.map (·.text))

def options : List DhcpOption := dump.lines.filterMap DumpLine.given?

/-- The value of the option of a name. -/
def value (name : Str) : Option Str := (dump.options.find? (·.name = name)).map (·.whole)

/-- What is read of the last option whose name begins with a name: its
value up to the first colon. -/
def lastBegun (name : Str) : Option Str :=
  ((dump.options.filter fun given => name <+: given.name).getLast?).map (·.cut)

/-- What the options say of the lease. -/
def lease : DhcpLease where
  messageType := (dump.value "dhcp_message_type".toList).map messageTypeOf
  leaseSeconds := (dump.value "lease_time".toList).bind leaseSecondsOf
  serverIdentifier := dump.value "server_identifier".toList
  router := (dump.value "router".toList).bind fun v => (parseIpList v).head?
  domainNameServers := (dump.value "domain_name_server".toList).elim [] parseIpList
  domainName := (dump.value "domain_name".toList).filter fun v => !v.isEmpty

end Dump

section Trimming
variable {front rest value : Str}

/-- Text is solid at both ends. -/
structure Solid (front : Str) : Prop where
  begins : front.head?.all (fun c => !isWhitespace c) = true
  ends : front.getLast?.all (fun c => !isWhitespace c) = true
  filled : front ≠ []

theorem dropWhile_solid_head (begins : front.head?.all (fun c => !isWhitespace c) = true) :
    front.dropWhile isWhitespace = front := by
  cases front with
  | nil => rfl
  | cons c front => exact List.dropWhile_cons_of_neg (by simpa using begins)

theorem Solid.trim_append (solid : Solid front) (rest : Str) :
    trim (front ++ rest) = front ++ trimEnd rest := by
  refine trim_solid_append solid.filled (dropWhile_solid_head solid.begins)
    (dropWhile_solid_head ?_) rest
  rw [List.head?_reverse]
  exact solid.ends

theorem trim_stripCarriageReturn (line : Str) : trim (stripCarriageReturn line) = trim line := by
  rw [stripCarriageReturn]
  split
  · rename_i last
    obtain ⟨before, rfl⟩ := List.getLast?_eq_some_iff.mp last
    rw [List.dropLast_concat]
    have wrapped : trim ([] ++ (before ++ ['\r'])) = trim before :=
      trimMatches_wrapped (fun c member => absurd member List.not_mem_nil)
        (List.forall_mem_singleton.mpr (by decide))
    exact wrapped.symm
  · rfl

theorem trimEnd_append_solid {c : Char} (solid : isWhitespace c = false) (before after : Str) :
    trimEnd (before ++ c :: after) = before ++ c :: trimEnd after := by
  have back : (before ++ c :: after).reverse = after.reverse ++ (c :: before.reverse) := by simp
  rw [trimEnd, back, List.dropWhile_append, trimEnd]
  by_cases blank : (after.reverse.dropWhile isWhitespace).isEmpty = true
  · rw [if_pos blank, List.dropWhile_cons_of_neg (by simp [solid]), List.isEmpty_iff.mp blank]
    simp
  · rw [if_neg blank]
    simp

private theorem other_of_absent {mark : Char} {text : Str} (absent : mark ∉ text) :
    ∀ c ∈ text, decide (c ≠ mark) = true :=
  fun _ member => decide_eq_true fun same => absent (same ▸ member)

theorem takeWhile_ne_append {mark : Char} {before : Str} (absent : mark ∉ before) (after : Str) :
    (before ++ mark :: after).takeWhile (· ≠ mark) = before := by
  rw [List.takeWhile_append_of_pos (other_of_absent absent)]
  simp

theorem takeWhile_ne_eq_self {mark : Char} {text : Str} (absent : mark ∉ text) :
    text.takeWhile (· ≠ mark) = text :=
  List.takeWhile_eq_self_iff.mpr (other_of_absent absent)

/-- What is read up to a colon does not depend on the blanks around it. -/
theorem trim_takeWhile_trimEnd (value : Str) :
    trim ((trimEnd (' ' :: value)).takeWhile (· ≠ ':')) = trim (value.takeWhile (· ≠ ':')) := by
  have blank (text : Str) : trim (' ' :: text) = trim text := by
    have white : ∀ c ∈ [' '], isWhitespace c = true := List.forall_mem_singleton.mpr (by decide)
    exact trim_blank_append white text
  by_cases mark : ':' ∈ value
  · obtain ⟨before, after, rfl, absent⟩ := List.eq_append_cons_of_mem mark
    have absentToo : ':' ∉ ' ' :: before := List.not_mem_cons_of_ne_of_not_mem (by decide) absent
    rw [← List.cons_append, trimEnd_append_solid (by decide), takeWhile_ne_append absentToo,
      takeWhile_ne_append absent, blank]
  · have absentEnd : ':' ∉ trimEnd (' ' :: value) := by
      intro member
      have inside := (List.dropWhile_sublist isWhitespace).subset (List.mem_reverse.mp member)
      rcases List.mem_cons.mp (List.mem_reverse.mp inside) with same | later
      · exact absurd same (by decide)
      · exact mark later
    rw [takeWhile_ne_eq_self absentEnd, takeWhile_ne_eq_self mark, trim_trimEnd, blank]

end Trimming

section Prefixes
variable {pattern front rest : Str} {mark : Char}

/-- A pattern without the mark that ends a name begins the name or not at all. -/
theorem prefix_append_cons_iff (absent : mark ∉ pattern) :
    pattern <+: front ++ mark :: rest ↔ pattern <+: front := by
  constructor
  · intro begins
    rcases List.prefix_or_prefix_of_prefix begins
      (List.prefix_append front (mark :: rest)) with within | ⟨more, rfl⟩
    · exact within
    · rw [List.prefix_append_right_inj] at begins
      cases more with
      | nil => rw [List.append_nil]
      | cons c more =>
        obtain ⟨rfl, -⟩ := List.cons_prefix_cons.mp begins
        exact absurd (List.mem_append_right _ List.mem_cons_self) absent
  · intro begins
    exact begins.trans (List.prefix_append _ _)

/-- A pattern up to the mark is the whole name. -/
theorem prefix_concat_iff (absent : mark ∉ pattern) (solid : mark ∉ front) :
    pattern ++ [mark] <+: front ++ mark :: rest ↔ front = pattern := by
  constructor
  · rintro ⟨more, same⟩
    have firsts := congrArg (List.takeWhile (· ≠ mark)) same
    rw [List.append_assoc, List.singleton_append, takeWhile_ne_append absent,
      takeWhile_ne_append solid] at firsts
    exact firsts.symm
  · rintro rfl
    exact ⟨rest, by simp⟩

theorem not_prefix_append (shorter : ¬ pattern <+: front) (longer : ¬ front <+: pattern) :
    ¬ pattern <+: front ++ rest :=
  fun begins => (List.prefix_or_prefix_of_prefix begins (List.prefix_append front rest)).elim
    shorter longer

/-- The value of a line is what it holds between its colons. -/
theorem valueOf_append (absent : ':' ∉ front) (rest : Str) :
    valueOf (front ++ ':' :: rest) = some (trim (rest.takeWhile (· ≠ ':'))) := by
  have ends : rest.dropWhile (· ≠ ':') = [] ∨ ∃ more, rest.dropWhile (· ≠ ':') = ':' :: more := by
    cases behind : rest.dropWhile (· ≠ ':') with
    | nil => exact Or.inl rfl
    | cons c more =>
      have stops : decide (c ≠ ':') = false := by
        have head := List.head?_dropWhile_not (fun c => decide (c ≠ ':')) rest
        rw [behind] at head
        simpa using head
      exact Or.inr ⟨more, by rw [not_not.mp (of_decide_eq_false stops)]⟩
  have first : ':' ∉ rest.takeWhile (· ≠ ':') :=
    fun member => absurd (List.mem_takeWhile_imp member) (by decide)
  obtain ⟨others, split⟩ := splitOn_first first ends
  rw [List.takeWhile_append_dropWhile] at split
  rw [valueOf, List.splitOn_append_cons_self_of_not_mem absent, split]
  rfl

theorem readOption_append {set : DhcpLease → Str → DhcpLease} {lease : DhcpLease}
    (plain : ':' ∉ pattern) (absent : ':' ∉ front) :
    readOption pattern set lease (front ++ ':' :: rest) =
      if pattern <+: front then some (set lease (trim (rest.takeWhile (· ≠ ':')))) else none := by
  rw [readOption]
  by_cases begins : pattern <+: front
  · obtain ⟨more, rfl⟩ := begins
    have absentMore : ':' ∉ more := fun member => absent (List.mem_append_right _ member)
    rw [if_pos (List.prefix_append pattern more), List.append_assoc, stripPrefix_append,
      Option.map_some, valueOf_append absentMore, Option.elim_some]
  · rw [if_neg begins, stripPrefix_eq_none_iff.mpr (mt (prefix_append_cons_iff plain).mp begins),
      Option.map_none]

end Prefixes

section Lines
variable {lease : DhcpLease}

/-- What an option sets in the lease, by the name that its own begins with. -/
def DhcpOption.apply (lease : DhcpLease) (given : DhcpOption) : DhcpLease :=
  if "dhcp_message_type".toList <+: given.name then
    { lease with messageType := some (messageTypeOf given.cut) }
  else if "lease_time".toList <+: given.name then
    { lease with leaseSeconds := leaseSecondsOf given.cut }
  else if "server_identifier".toList <+: given.name then
    { lease with serverIdentifier := some given.cut }
  else if "router".toList <+: given.name then { lease with router := (parseIpList given.cut).head? }
  else if "domain_name_server".toList <+: given.name then
    { lease with domainNameServers := parseIpList given.cut }
  else if given.name = "domain_name".toList then
    if given.cut.isEmpty then lease else { lease with domainName := some given.cut }
  else lease

theorem DhcpOption.trim_text (given : DhcpOption) :
    trim given.text = given.name ++ " (".toList ++ given.type ++ ")".toList ++ ':' ::
      trimEnd (' ' :: given.value) := by
  obtain ⟨c, name, named⟩ := List.exists_cons_of_ne_nil given.named
  have solid : Solid (given.name ++ " (".toList ++ given.type ++ "):".toList) := by
    refine ⟨?_, ?_, ?_⟩
    · have first : isWhitespace c = false := given.solid c (by rw [named]; exact List.mem_cons_self)
      simp [named, first]
    · have colon : "):".toList = [')'] ++ [':'] := by decide
      rw [colon, ← List.append_assoc, List.getLast?_concat]
      decide
    · simp
  have laid : given.text = (given.name ++ " (".toList ++ given.type ++ "):".toList) ++
      (' ' :: given.value) := by
    simp [DhcpOption.text]
  rw [laid, solid.trim_append]
  simp

theorem readOption_given {pattern : Str} {set : DhcpLease → Str → DhcpLease} (given : DhcpOption)
    (plain : ':' ∉ pattern) :
    readOption pattern set lease (trim given.text) =
      if pattern <+: given.name ++ ' ' :: ('(' :: given.type ++ ")".toList) then
        some (set lease given.cut) else none := by
  have absent : ':' ∉ given.name ++ " (".toList ++ given.type ++ ")".toList := by
    have inside := given.colon
    simp only [List.mem_append, not_or] at inside ⊢
    exact ⟨⟨⟨inside.1, by decide⟩, inside.2⟩, by decide⟩
  have laid : given.name ++ " (".toList ++ given.type ++ ")".toList =
      given.name ++ ' ' :: ('(' :: given.type ++ ")".toList) := by
    simp
  rw [given.trim_text, readOption_append plain absent, trim_takeWhile_trimEnd, DhcpOption.cut, laid]

theorem getD_ite {α : Type*} {p : Prop} [Decidable p] (found default : α) :
    (if p then some found else none).getD default = if p then found else default := by
  split <;> rfl

theorem getD_or_ite {α : Type*} {p : Prop} [Decidable p] (found default : α) (later : Option α) :
    ((if p then some found else none).or later).getD default =
      if p then found else later.getD default := by
  split <;> rfl

/-- An option sets the field whose name its own begins with. -/
theorem readLine_option (given : DhcpOption) : readLine lease given.text = given.apply lease := by
  have spaceless : ' ' ∉ given.name := fun member => absurd (given.solid ' ' member) (by decide)
  have field (pattern : Str) (set : DhcpLease → Str → DhcpLease) (plain : ':' ∉ pattern)
      (solid : ' ' ∉ pattern) :
      readOption pattern set lease (trim given.text) =
        if pattern <+: given.name then some (set lease given.cut) else none := by
    rw [readOption_given given plain]
    simp only [prefix_append_cons_iff solid]
  have name : readDomainName lease (trim given.text) = if given.name = "domain_name".toList then
      some (if given.cut.isEmpty then lease else { lease with domainName := some given.cut })
        else none := by
    have marked : "domain_name ".toList = "domain_name".toList ++ [' '] := by decide
    rw [readDomainName, readOption_given given (by decide), marked]
    have absent : ' ' ∉ "domain_name".toList := by decide
    simp only [prefix_concat_iff absent spaceless]
  rw [readLine]
  simp only [name, readMessageType, readLeaseTime, readServerIdentifier, readRouter,
    readDomainNameServers]
  rw [field _ _ (by decide) (by decide), field _ _ (by decide) (by decide),
    field _ _ (by decide) (by decide), field _ _ (by decide) (by decide), field _ _ (by decide)
      (by decide), getD_or_ite, getD_or_ite, getD_or_ite, getD_or_ite,
    getD_or_ite, getD_ite, DhcpOption.apply]

/-- The texts that a line is compared with. -/
def optionPrefixes : List Str :=
  ["dhcp_message_type".toList, "lease_time".toList, "server_identifier".toList, "router".toList,
    "domain_name_server".toList, "domain_name ".toList]

/-- A line that begins otherwise than every option says nothing of the lease. -/
theorem readLine_other (lease : DhcpLease) (front rest : Str) (solid : Solid front)
    (other : ∀ pattern ∈ optionPrefixes, ¬ pattern <+: front ∧ ¬ front <+: pattern) :
    readLine lease (front ++ rest) = lease := by
  have unread (pattern : Str) (listed : pattern ∈ optionPrefixes)
      (set : DhcpLease → Str → DhcpLease) :
      readOption pattern set lease (trim (front ++ rest)) = none := by
    obtain ⟨shorter, longer⟩ := other pattern listed
    have apart : ¬ pattern <+: front ++ trimEnd rest := not_prefix_append shorter longer
    rw [solid.trim_append, readOption, stripPrefix_eq_none_iff.mpr apart, Option.map_none]
  rw [readLine]
  simp only [readMessageType, readLeaseTime, readServerIdentifier, readRouter,
    readDomainNameServers, readDomainName]
  rw [unread _ (by simp [optionPrefixes]), unread _ (by simp [optionPrefixes]),
    unread _ (by simp [optionPrefixes]), unread _ (by simp [optionPrefixes]),
    unread _ (by simp [optionPrefixes]), unread _ (by simp [optionPrefixes])]
  rfl

theorem readLine_headerKey (key : HeaderKey) (rest : Str) :
    readLine lease (key.text ++ rest) = lease := by
  have solid : Solid key.text := by
    cases key <;> exact ⟨by decide, by decide, by decide⟩
  exact readLine_other lease key.text rest solid (by cases key <;> decide)

/-- A line of a dump sets what its option says, if it has one. -/
theorem readLine_text (line : DumpLine) :
    readLine lease line.text = line.given?.elim lease (DhcpOption.apply lease) := by
  cases line with
  | header key value =>
    change readLine lease (key.text ++ " = ".toList ++ value.text) = lease
    rw [List.append_assoc]
    exact readLine_headerKey key _
  | optionsFollow =>
    have whole :=
      readLine_other lease "options:".toList [] ⟨by decide, by decide, by decide⟩ (by decide)
    rwa [List.append_nil] at whole
  | optionsCount count =>
    have whole := readLine_other lease "Options count is".toList (' ' :: Nat.toDigits 10 count)
      ⟨by decide, by decide, by decide⟩ (by decide)
    change readLine lease ("Options count is ".toList ++ Nat.toDigits 10 count) = lease
    have split : "Options count is ".toList = "Options count is".toList ++ [' '] := by decide
    rwa [split, List.append_assoc]
  | option given => exact readLine_option given
  | ending =>
    have whole :=
      readLine_other lease "end (none):".toList [] ⟨by decide, by decide, by decide⟩ (by decide)
    rwa [List.append_nil] at whole

theorem newline_not_mem_text (line : DumpLine) : '\n' ∉ line.text := by
  cases line with
  | header key value =>
    have plain : '\n' ∉ key.text := by cases key <;> decide
    change '\n' ∉ key.text ++ " = ".toList ++ value.text
    simp only [List.mem_append, not_or]
    exact ⟨⟨plain, by decide⟩, value.single⟩
  | optionsFollow => decide
  | optionsCount count =>
    change '\n' ∉ "Options count is ".toList ++ Nat.toDigits 10 count
    simp only [List.mem_append, not_or]
    exact ⟨by decide, not_mem_toDigits (by decide) count⟩
  | option given =>
    have single := given.single
    change '\n' ∉ given.text
    simp only [DhcpOption.text, List.mem_append, not_or] at single ⊢
    exact ⟨⟨⟨⟨single.1.1, by decide⟩, single.1.2⟩, by decide⟩, single.2⟩
  | ending => decide

/-- The options of a dump set the lease one behind the other. -/
theorem parseGetpacket_text (dump : Dump) :
    parseGetpacket dump.text = dump.options.foldl DhcpOption.apply .default := by
  have single : ∀ line ∈ dump.lines.map (·.text), '\n' ∉ line := by
    intro line member
    obtain ⟨shown, -, rfl⟩ := List.mem_map.mp member
    exact newline_not_mem_text shown
  have step (lease : DhcpLease) (line : DumpLine) :
      readLine lease (stripCarriageReturn line.text) =
        line.given?.elim lease (DhcpOption.apply lease) := by
    rw [← readLine_text, readLine, readLine, trim_stripCarriageReturn]
  rw [parseGetpacket, Dump.text, lines_unlines single, List.map_map, List.foldl_map, Dump.options,
    List.foldl_filterMap]
  congr 1
  funext lease line
  rw [Function.comp_apply, step]
  cases line.given? <;> rfl

end Lines

end FragglePacket.NetworkTests
