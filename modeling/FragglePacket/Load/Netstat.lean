import Mathlib.Data.List.Basic
import FragglePacket.Text.Fields
import FragglePacket.Text.Integer

/-! Snapshots of interface counters, out of the table of `netstat -I <iface> -b`. -/

namespace FragglePacket.Load

open FragglePacket.Text

structure InterfaceCounters where
  rxPackets : UInt64
  txPackets : UInt64
  rxBytes : UInt64
  txBytes : UInt64
  rxErrors : UInt64
  txErrors : UInt64

def InterfaceCounters.zero : InterfaceCounters := ⟨0, 0, 0, 0, 0, 0⟩

/-- No packet or byte counter went backwards; the error counters are not looked at. -/
def InterfaceCounters.usableDeltaFrom (after before : InterfaceCounters) : Bool :=
  decide (before.rxPackets ≤ after.rxPackets) && decide (before.txPackets ≤ after.txPackets) &&
    decide (before.rxBytes ≤ after.rxBytes) && decide (before.txBytes ≤ after.txBytes)

theorem InterfaceCounters.usableDeltaFrom_iff (after before : InterfaceCounters) :
    after.usableDeltaFrom before = true ↔
      before.rxPackets ≤ after.rxPackets ∧ before.txPackets ≤ after.txPackets ∧
      before.rxBytes ≤ after.rxBytes ∧ before.txBytes ≤ after.txBytes := by
  simp [usableDeltaFrom, and_assoc]

/-- Where the header has the columns that are read. -/
structure CounterColumns where
  ipktsI : Nat
  ierrsI : Nat
  ibytesI : Nat
  opktsI : Nat
  oerrsI : Nat
  obytesI : Nat

def CounterColumns.ofHeader (cols : List Str) : Option CounterColumns := do
  let ipktsI ← cols.idxOf? "Ipkts".toList
  let ierrsI ← cols.idxOf? "Ierrs".toList
  let ibytesI ← cols.idxOf? "Ibytes".toList
  let opktsI ← cols.idxOf? "Opkts".toList
  let oerrsI ← cols.idxOf? "Oerrs".toList
  let obytesI ← cols.idxOf? "Obytes".toList
  some ⟨ipktsI, ierrsI, ibytesI, opktsI, oerrsI, obytesI⟩

def CounterColumns.maxI (columns : CounterColumns) : Nat :=
  [columns.ierrsI, columns.ibytesI, columns.opktsI, columns.oerrsI, columns.obytesI].foldl max
    columns.ipktsI

/-- The counters of a row, where it is one of the interface with numbers for packets and bytes. -/
def rowCounters (columns : CounterColumns) (interface : Str) (fields : List Str) :
    Option InterfaceCounters :=
  if fields.head? ≠ some interface then none
  else if fields.length ≤ columns.maxI then none
  else
    let parse (column : Nat) : Option UInt64 := parseU64 (fields.getD column [])
    match parse columns.ipktsI, parse columns.ibytesI, parse columns.opktsI,
      parse columns.obytesI with
    | some ip, some ib, some op, some ob =>
      some
        { rxPackets := ip
          txPackets := op
          rxBytes := ib
          txBytes := ob
          rxErrors := (parse columns.ierrsI).getD 0
          txErrors := (parse columns.oerrsI).getD 0 }
    | _, _, _, _ => none

def parseNetstatIb (text interface : Str) : Option InterfaceCounters :=
  match lines text with
  | [] => none
  | header :: rows => do
    let columns ← CounterColumns.ofHeader (splitWhitespace header)
    rows.findSome? fun line => rowCounters columns interface (splitWhitespace line)

section Table

/-- The row of a link. Loopback and tunnel interfaces have no address. -/
structure LinkRow where
  name : Str
  mtu : Str
  link : Nat
  address : Option Str
  ipkts : UInt64
  ierrs : UInt64
  ibytes : UInt64
  opkts : UInt64
  oerrs : UInt64
  obytes : UInt64
  coll : UInt64
  tokens : ∀ field ∈ [name, mtu] ++ address.toList, Token field

/-- The row of an address. It has no numbers for errors and bytes. -/
structure AddressRow where
  name : Str
  mtu : Str
  network : Str
  address : Str
  ipkts : UInt64
  opkts : UInt64
  coll : Str
  tokens : ∀ field ∈ [name, mtu, network, address, coll], Token field

inductive TableRow where
  | link (row : LinkRow)
  | address (row : AddressRow)

/-- A number as a cell of the table. -/
def cell (number : UInt64) : Str := Nat.toDigits 10 number.toNat

def tableHeader : List Str :=
  ["Name", "Mtu", "Network", "Address", "Ipkts", "Ierrs", "Ibytes", "Opkts", "Oerrs", "Obytes",
    "Coll"].map
    String.toList

/-- `<Link#N>`. -/
def linkNetwork (link : Nat) : Str := "<Link#".toList ++ Nat.toDigits 10 link ++ ['>']

def LinkRow.cells (row : LinkRow) : List Str :=
  [row.name, row.mtu, linkNetwork row.link, row.address.getD [], cell row.ipkts, cell row.ierrs,
    cell row.ibytes, cell row.opkts, cell row.oerrs, cell row.obytes, cell row.coll]

def AddressRow.cells (row : AddressRow) : List Str :=
  [row.name, row.mtu, row.network, row.address, cell row.ipkts, ['-'], ['-'], cell row.opkts, ['-'],
    ['-'], row.coll]

def TableRow.cells : TableRow → List Str
  | link row => row.cells
  | address row => row.cells

/-- The cells of a row that have a text. -/
def TableRow.fields (row : TableRow) : List Str := row.cells.filter fun cell => !cell.isEmpty

/-- The text has the header and the rows, each on a line of its own, in columns of any width. -/
structure Renders (text : Str) (table : List TableRow) : Prop where
  layout : (lines text).map splitWhitespace = tableHeader :: table.map TableRow.fields

/-- The row, where it is the link row of the interface. -/
def TableRow.linkOf (interface : Str) : TableRow → Option LinkRow
  | link row => if row.name = interface then some row else none
  | address _ => none

/-- The link row of an interface. -/
def linkRow (table : List TableRow) (interface : Str) : Option LinkRow :=
  table.findSome? (TableRow.linkOf interface)

/-- The counters of a link row, each from its own column. -/
def LinkRow.counters (row : LinkRow) : InterfaceCounters :=
  { rxPackets := row.ipkts
    txPackets := row.opkts
    rxBytes := row.ibytes
    txBytes := row.obytes
    rxErrors := row.ierrs
    txErrors := row.oerrs }

/-- All numbers of the row are one number. -/
structure LinkRow.Uniform (row : LinkRow) : Prop where
  ierrs : row.ierrs = row.ipkts
  ibytes : row.ibytes = row.ipkts
  opkts : row.opkts = row.ipkts
  oerrs : row.oerrs = row.ipkts
  obytes : row.obytes = row.ipkts
  coll : row.coll = row.ipkts

end Table

/-- The columns of the header are where the tokens of a row with all cells are. -/
def tableColumns : CounterColumns := ⟨4, 5, 6, 7, 8, 9⟩

theorem ofHeader_tableHeader : CounterColumns.ofHeader tableHeader = some tableColumns := rfl

/-- What is read of a link row. Behind an empty address every cell is read for
the column in front of it. -/
def LinkRow.read (row : LinkRow) : InterfaceCounters :=
  match row.address with
  | some _ => row.counters
  | none =>
    { rxPackets := row.ierrs
      txPackets := row.oerrs
      rxBytes := row.opkts
      txBytes := row.coll
      rxErrors := row.ibytes
      txErrors := row.obytes }

theorem parseU64_cell (number : UInt64) : parseU64 (cell number) = some number :=
  parseU64_toDigits number

theorem cell_token (number : UInt64) : Token (cell number) := toDigits_token number.toNat

theorem linkNetwork_token (link : Nat) : Token (linkNetwork link) := by
  refine ⟨List.append_ne_nil_of_right_ne_nil _ (List.cons_ne_nil _ _), fun c member => ?_⟩
  have opening : Token "<Link#".toList := by decide
  rcases List.mem_append.mp member with front | closing
  · rcases List.mem_append.mp front with bracket | digit
    · exact opening.2 c bracket
    · exact (toDigits_token link).2 c digit
  · rw [List.mem_singleton.mp closing]
    rfl

theorem link_fields (row : LinkRow) : (TableRow.link row).fields =
    [row.name, row.mtu, linkNetwork row.link] ++ row.address.toList ++
      [cell row.ipkts, cell row.ierrs,
      cell row.ibytes, cell row.opkts, cell row.oerrs, cell row.obytes, cell row.coll] := by
  have tokens := row.tokens
  simp only [List.cons_append, List.nil_append, List.forall_mem_cons] at tokens
  obtain ⟨name, mtu, address⟩ := tokens
  have written (number : UInt64) : cell number ≠ [] := (cell_token number).1
  cases given : row.address with
  | none =>
    simp [TableRow.fields, TableRow.cells, LinkRow.cells, given, name.1, mtu.1,
      (linkNetwork_token _).1, written]
  | some text =>
    have solid : text ≠ [] := (address text (by simp [given])).1
    simp [TableRow.fields, TableRow.cells, LinkRow.cells, given, name.1, mtu.1,
      (linkNetwork_token _).1, written, solid]

theorem address_fields (row : AddressRow) : (TableRow.address row).fields = row.cells := by
  have tokens := row.tokens
  simp only [List.forall_mem_cons] at tokens
  obtain ⟨name, mtu, network, address, coll, _⟩ := tokens
  have written (number : UInt64) : cell number ≠ [] := (cell_token number).1
  simp [TableRow.fields, TableRow.cells, AddressRow.cells, name.1, mtu.1, network.1, address.1,
    coll.1, written]

theorem rowCounters_link (interface : Str) (row : LinkRow) :
    rowCounters tableColumns interface (TableRow.link row).fields =
      if row.name = interface then some row.read else none := by
  rw [link_fields]
  by_cases same : row.name = interface
  · rw [rowCounters, if_neg (by simp [same]), if_pos same]
    cases address : row.address with
    | some address =>
      simp [LinkRow.read, LinkRow.counters, address, tableColumns, CounterColumns.maxI,
        parseU64_cell]
    | none => simp [LinkRow.read, address, tableColumns, CounterColumns.maxI, parseU64_cell]
  · rw [rowCounters, if_pos (by simp [same]), if_neg same]

theorem rowCounters_address (interface : Str) (row : AddressRow) :
    rowCounters tableColumns interface (TableRow.address row).fields = none := by
  have dash : parseU64 ['-'] = none := rfl
  rw [address_fields, rowCounters]
  split
  · rfl
  · simp [AddressRow.cells, tableColumns, CounterColumns.maxI, dash]

theorem rowCounters_row (interface : Str) (row : TableRow) :
    rowCounters tableColumns interface row.fields = (row.linkOf interface).map LinkRow.read := by
  cases row with
  | link row =>
    rw [TableRow.linkOf, rowCounters_link]
    by_cases same : row.name = interface
    · rw [if_pos same, if_pos same, Option.map_some]
    · rw [if_neg same, if_neg same, Option.map_none]
  | address row => exact rowCounters_address interface row

/-- The first link row of the interface decides. -/
theorem parseNetstatIb_renders {text : Str} {table : List TableRow} (renders : Renders text table)
    (interface : Str) :
    parseNetstatIb text interface = (linkRow table interface).map LinkRow.read := by
  obtain ⟨header, rows, split, columns, body⟩ := List.map_eq_cons_iff.mp renders.layout
  rw [parseNetstatIb, split]
  change (CounterColumns.ofHeader (splitWhitespace header)).bind _ = _
  rw [columns, ofHeader_tableHeader, Option.bind_some]
  calc rows.findSome? (fun line => rowCounters tableColumns interface (splitWhitespace line))
      = (rows.map splitWhitespace).findSome? (rowCounters tableColumns interface) := by
        rw [List.findSome?_map]
        rfl
    _ = (table.map TableRow.fields).findSome? (rowCounters tableColumns interface) := by rw [body]
    _ = table.findSome? (Option.map LinkRow.read ∘ TableRow.linkOf interface) := by
        rw [List.findSome?_map]
        exact congrArg (List.findSome? · table) (funext (rowCounters_row interface))
    _ = (linkRow table interface).map LinkRow.read := List.map_findSome?.symm

/-- A row without an address is read right only where all its numbers are one. -/
theorem read_eq_counters_iff (row : LinkRow) :
    row.read = row.counters ↔ row.address.isSome = true ∨ row.Uniform := by
  cases address : row.address with
  | some address => simp [LinkRow.read, address]
  | none =>
    simp only [LinkRow.read, address, LinkRow.counters, InterfaceCounters.mk.injEq,
      Option.isSome_none, Bool.false_eq_true, false_or]
    constructor
    · intro ⟨rxPackets, txPackets, rxBytes, txBytes, rxErrors, txErrors⟩
      have ibytes : row.ibytes = row.ipkts := rxErrors.trans rxPackets
      have opkts : row.opkts = row.ipkts := rxBytes.trans ibytes
      have oerrs : row.oerrs = row.ipkts := txPackets.trans opkts
      have obytes : row.obytes = row.ipkts := txErrors.trans oerrs
      exact ⟨rxPackets, ibytes, opkts, oerrs, obytes, txBytes.trans obytes⟩
    · intro uniform
      exact ⟨uniform.ierrs, uniform.oerrs.trans uniform.opkts.symm,
        uniform.opkts.trans uniform.ibytes.symm, uniform.coll.trans uniform.obytes.symm,
        uniform.ibytes.trans uniform.ierrs.symm, uniform.obytes.trans uniform.oerrs.symm⟩

/-- The table in columns of one width. -/
def renderTable (width : Nat) (table : List TableRow) : Str :=
  unlines ((tableHeader :: table.map TableRow.cells).map fun cells =>
    cells.flatMap (justified width))

theorem cells_proper (row : TableRow) : ∀ cell ∈ row.cells, cell = [] ∨ Token cell := by
  cases row with
  | link row =>
    have tokens := row.tokens
    simp only [List.cons_append, List.nil_append, List.forall_mem_cons] at tokens
    obtain ⟨name, mtu, address⟩ := tokens
    have given : row.address.getD [] = [] ∨ Token (row.address.getD []) := by
      cases printed : row.address with
      | none => exact .inl rfl
      | some text => exact .inr (address text (by simp [printed]))
    simp only [TableRow.cells, LinkRow.cells, List.forall_mem_cons]
    exact ⟨.inr name, .inr mtu, .inr (linkNetwork_token _), given, .inr (cell_token _),
      .inr (cell_token _), .inr (cell_token _), .inr (cell_token _), .inr (cell_token _),
      .inr (cell_token _), .inr (cell_token _), fun _ member => nomatch member⟩
  | address row =>
    have solid : ∀ cell ∈ row.cells, Token cell := by
      have tokens := row.tokens
      have dash : Token ['-'] := by decide
      simp only [List.forall_mem_cons] at tokens
      obtain ⟨name, mtu, network, address, coll, _⟩ := tokens
      simp only [AddressRow.cells, List.forall_mem_cons]
      exact ⟨name, mtu, network, address, cell_token _, dash, dash, cell_token _, dash, dash, coll,
        fun _ member => nomatch member⟩
    exact fun cell member => .inr (solid cell member)

/-- Every table has a text. -/
theorem renders_renderTable (width : Nat) (table : List TableRow) :
    Renders (renderTable width table) table := by
  have header : ∀ cell ∈ tableHeader, cell = [] ∨ Token cell := by
    have solid : ∀ cell ∈ tableHeader, Token cell := by decide
    exact fun cell member => .inr (solid cell member)
  have proper : ∀ cells ∈ tableHeader :: table.map TableRow.cells, ∀ cell ∈ cells, cell = [] ∨
      Token cell := by
    simp only [List.forall_mem_cons, List.forall_mem_map]
    exact ⟨header, fun row _ => cells_proper row⟩
  refine ⟨?_⟩
  rw [renderTable, lines_justified proper, List.map_map, List.map_cons, List.map_map]
  congr 1
  · exact splitWhitespace_justified width header
  · exact List.map_congr_left fun row _ => splitWhitespace_justified width (cells_proper row)

/-- The counters found for an interface are those of its link row. -/
def ReadsLinkRow (text : Str) (table : List TableRow) (interface : Str) : Prop :=
  ∀ counters, parseNetstatIb text interface = some counters →
    ∃ row, linkRow table interface = some row ∧ counters = row.counters

/-- The link row is read from its own columns exactly where it has an address,
or all its numbers are one. -/
theorem parseNetstatIb_linkRow_iff {text : Str} {table : List TableRow}
    (renders : Renders text table) (interface : Str) : ReadsLinkRow text table interface ↔
      ∀ row, linkRow table interface = some row → row.address.isSome = true ∨ row.Uniform := by
  rw [ReadsLinkRow, parseNetstatIb_renders renders]
  constructor
  · intro reads row found
    rw [found] at reads
    obtain ⟨own, same, counters⟩ := reads row.read rfl
    rw [← Option.some.inj same] at counters
    exact (read_eq_counters_iff row).mp counters
  · intro condition counters read
    obtain ⟨row, found, same⟩ := Option.map_eq_some_iff.mp read
    exact ⟨row, found, same.symm.trans ((read_eq_counters_iff row).mpr (condition row found))⟩

section Loopback

private def loopback : LinkRow :=
  ⟨"lo0".toList, "16384".toList, 1, none, 51034, 0, 16421968, 51034, 0, 16421968, 0, by decide⟩

private def loopbackTable : List TableRow :=
  [.link loopback,
    .address ⟨"lo0".toList, "16384".toList, "127".toList, "127.0.0.1".toList, 51034, 51034, ['-'],
      by decide⟩]

theorem parseNetstatIb_linkRow_loopback :
    ReadsLinkRow (renderTable 9 loopbackTable) loopbackTable "lo0".toList ↔
    ∀ row, linkRow loopbackTable "lo0".toList = some row →
      row.address.isSome = true ∨ row.Uniform :=
  parseNetstatIb_linkRow_iff (renders_renderTable 9 loopbackTable) "lo0".toList

/-- The packets of the loopback interface are read as its errors, and the errors as packets. -/
theorem loopback_counters_shifted : ¬ ∀ (text : Str) (table : List TableRow) (interface : Str),
    Renders text table → ReadsLinkRow text table interface := by
  intro claim
  have renders := renders_renderTable 9 loopbackTable
  have found : linkRow loopbackTable "lo0".toList = some loopback := rfl
  have read := parseNetstatIb_renders renders "lo0".toList
  rw [found, Option.map_some] at read
  obtain ⟨row, own, counters⟩ :=
    claim (renderTable 9 loopbackTable) loopbackTable "lo0".toList renders _ read
  rw [← Option.some.inj (found.symm.trans own)] at counters
  have packets : (0 : UInt64) = 51034 := congrArg InterfaceCounters.rxPackets counters
  exact absurd packets (by decide)

end Loopback

end FragglePacket.Load
