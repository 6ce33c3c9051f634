import FragglePacket.Wire.Bytes

/-! Sequences of attributes: a 16-bit type, a 16-bit length, a value of that length, and
padding to a whole word. -/

namespace FragglePacket.Wire

abbrev Attribute := UInt16 × Bytes

/-- The bytes that fill a value of this length up to a whole word. -/
def padding (len : Nat) : Nat := (4 - len % 4) % 4

theorem padding_aligned (len : Nat) : (len + padding len) % 4 = 0 := by
  simp only [padding]
  omega

/-- The attribute as it is written, with zeros for padding. -/
def Attribute.bytes (attr : Attribute) : Bytes :=
  be16 attr.1 ++ be16 (.ofNat attr.2.length) ++ attr.2 ++ List.replicate (padding attr.2.length) 0

/-- The bytes are these attributes, each of them whole. The padding may hold anything. -/
inductive Whole : Bytes → List Attribute → Prop
  | done : Whole [] []
  | attr (type : UInt16) {value pad rest : Bytes} {attrs : List Attribute}
      (small : value.length < 65536)
      (padded : pad.length = padding value.length) (tail : Whole rest attrs) :
      Whole (be16 type ++ (be16 (.ofNat value.length) ++ (value ++ (pad ++ rest))))
        ((type, value) :: attrs)

/-- The bytes list these attributes when what does not fit at the end is cut off. -/
inductive Lists : Bytes → List Attribute → Prop
  | done {body : Bytes} (short : body.length < 4) : Lists body []
  | attr (type : UInt16) {value pad rest : Bytes} {attrs : List Attribute}
      (small : value.length < 65536)
      (padded : pad.length = padding value.length) (tail : Lists rest attrs) :
      Lists (be16 type ++ (be16 (.ofNat value.length) ++ (value ++ (pad ++ rest))))
        ((type, value) :: attrs)
  | cut (type length : UInt16) {present : Bytes}
      (short : present.length < length.toNat + padding length.toNat) :
      Lists (be16 type ++ (be16 length ++ present)) [(type, present.take length.toNat)]

theorem Whole.lists {body : Bytes} {attrs : List Attribute} (whole : Whole body attrs) :
    Lists body attrs := by
  induction whole with
  | done => exact .done (by decide)
  | attr type small padded _ ih => exact .attr type small padded ih

theorem Whole.aligned {body : Bytes} {attrs : List Attribute} (whole : Whole body attrs) :
    body.length % 4 = 0 := by
  induction whole with
  | done => rfl
  | @attr type value pad rest attrs _ padded _ ih =>
    have fill := padding_aligned value.length
    simp only [List.length_append, be16_length, padded]
    omega

theorem Whole.of_bytes (attrs : List Attribute) (small : ∀ attr ∈ attrs, attr.2.length < 65536) :
    Whole (attrs.flatMap Attribute.bytes) attrs := by
  induction attrs with
  | nil => exact .done
  | cons attr rest ih =>
    have tail := ih fun other member => small other (List.mem_cons_of_mem _ member)
    have first :=
      Whole.attr attr.1 (small attr List.mem_cons_self) (List.length_replicate (a := 0)) tail
    simpa only [List.flatMap_cons, Attribute.bytes, List.append_assoc] using first

private theorem padded_split {len : Nat} {rest : Bytes} (room : len + padding len ≤ rest.length) :
    (rest.take len).length = len ∧ ((rest.drop len).take (padding len)).length = padding len ∧
      rest.take len ++ ((rest.drop len).take (padding len) ++ rest.drop (len + padding len)) =
        rest := by
  refine ⟨List.length_take_of_le (Nat.le_trans (Nat.le_add_right _ _) room), ?_, ?_⟩
  · rw [List.length_take_of_le]
    rw [List.length_drop]
    exact Nat.le_sub_of_add_le' room
  · rw [← List.drop_drop, List.take_append_drop, List.take_append_drop]

theorem Whole.cons (type : UInt16) {len : Nat} {rest : Bytes} {attrs : List Attribute}
    (small : len < 65536) (room : len + padding len ≤ rest.length)
    (tail : Whole (rest.drop (len + padding len)) attrs) :
    Whole (be16 type ++ (be16 (.ofNat len) ++ rest)) ((type, rest.take len) :: attrs) := by
  obtain ⟨size, fill, parts⟩ := padded_split room
  have first := Whole.attr type (size.symm ▸ small) (fill.trans (congrArg padding size.symm)) tail
  rwa [size, parts] at first

theorem Lists.cons (type : UInt16) {len : Nat} {rest : Bytes} {attrs : List Attribute}
    (small : len < 65536) (room : len + padding len ≤ rest.length)
    (tail : Lists (rest.drop (len + padding len)) attrs) :
    Lists (be16 type ++ (be16 (.ofNat len) ++ rest)) ((type, rest.take len) :: attrs) := by
  obtain ⟨size, fill, parts⟩ := padded_split room
  have first := Lists.attr type (size.symm ▸ small) (fill.trans (congrArg padding size.symm)) tail
  rwa [size, parts] at first

/-- What is whole begins with a whole attribute, and goes on with whole ones. -/
theorem Whole.uncons {type length : UInt16} {rest : Bytes} {attrs : List Attribute}
    (whole : Whole (be16 type ++ (be16 length ++ rest)) attrs) :
    length.toNat + padding length.toNat ≤ rest.length ∧
      ∃ others, Whole (rest.drop (length.toNat + padding length.toNat)) others := by
  generalize same : be16 type ++ (be16 length ++ rest) = body at whole
  cases whole with
  | done => cases same
  | @attr first value pad tail others small padded whole =>
    obtain ⟨_, behind⟩ := List.append_inj same rfl
    obtain ⟨word, parts⟩ := List.append_inj behind rfl
    have len : length.toNat = value.length := by
      rw [be16_injective word, UInt16.toNat_ofNat_of_lt' small]
    have fill : (value ++ pad).length = length.toNat + padding length.toNat := by
      rw [List.length_append, padded, len]
    subst parts
    rw [← List.append_assoc]
    constructor
    · have all : (value ++ pad ++ tail).length =
          length.toNat + padding length.toNat + tail.length := by
        rw [List.length_append, fill]
      rw [all]
      exact Nat.le_add_right _ _
    · exact ⟨others, (List.drop_left' fill).symm ▸ whole⟩

/-- Reads the attributes off from the front. -/
def readAttributes : Bytes → List Attribute
  | typeHigh :: typeLow :: lengthHigh :: lengthLow :: rest =>
    let len := (readBe16 lengthHigh lengthLow).toNat
    (readBe16 typeHigh typeLow, rest.take len) :: readAttributes (rest.drop (len + padding len))
  | _ => []
termination_by body => body.length
decreasing_by
  simp only [List.length_cons, List.length_drop]
  omega

theorem readAttributes_short {body : Bytes} (short : body.length < 4) :
    readAttributes body = [] := by
  match body with
  | [] | [_] | [_, _] | [_, _, _] => simp only [readAttributes]
  | _ :: _ :: _ :: _ :: rest =>
    simp only [List.length_cons] at short
    omega

theorem readAttributes_append (type length : UInt16) (rest : Bytes) :
    readAttributes (be16 type ++ (be16 length ++ rest)) =
      (type, rest.take length.toNat) ::
        readAttributes (rest.drop (length.toNat + padding length.toNat)) := by
  simp only [be16, List.cons_append, List.nil_append, readAttributes, readBe16_bytes]

/-- The last attribute, when its value takes all there is. -/
theorem readAttributes_last (type length : UInt16) {value : Bytes}
    (short : value.length ≤ length.toNat) :
    readAttributes (be16 type ++ (be16 length ++ value)) = [(type, value)] := by
  rw [readAttributes_append, List.take_of_length_le short,
    List.drop_eq_nil_of_le (Nat.le_add_right_of_le short), readAttributes_short (by decide)]

theorem Lists.read_eq {body : Bytes} {attrs : List Attribute} (lists : Lists body attrs) :
    readAttributes body = attrs := by
  induction lists with
  | done short => exact readAttributes_short short
  | @attr type value pad rest attrs small padded _ ih =>
    have len : (UInt16.ofNat value.length).toNat = value.length := UInt16.toNat_ofNat_of_lt' small
    have behind : (value ++ pad).length = value.length + padding value.length := by
      rw [List.length_append, padded]
    rw [readAttributes_append, len, List.take_left, ← List.append_assoc, List.drop_left' behind, ih]
  | @cut type length present short =>
    rw [readAttributes_append, List.drop_eq_nil_of_le (Nat.le_of_lt short),
      readAttributes_short (by decide)]

theorem lists_read (body : Bytes) : Lists body (readAttributes body) := by
  induction body using readAttributes.induct with
  | case1 typeHigh typeLow lengthHigh lengthLow rest len ih =>
    have header : typeHigh :: typeLow :: lengthHigh :: lengthLow :: rest =
        be16 (readBe16 typeHigh typeLow) ++ (be16 (readBe16 lengthHigh lengthLow) ++ rest) := by
          simp
    rw [header, readAttributes_append]
    by_cases short : rest.length < len + padding len
    · have cut := Lists.cut (readBe16 typeHigh typeLow) (readBe16 lengthHigh lengthLow) short
      rwa [List.drop_eq_nil_of_le (Nat.le_of_lt short), readAttributes_short (by decide)]
    · have whole :=
        Lists.cons (readBe16 typeHigh typeLow) (UInt16.toNat_lt _) (Nat.not_lt.mp short) ih
      rwa [UInt16.ofNat_toNat] at whole
  | case2 body other =>
    have short : body.length < 4 := by
      match body, other with
      | [], _ | [_], _ | [_, _], _ | [_, _, _], _ => simp
      | a :: b :: c :: d :: rest, other => exact (other a b c d rest rfl).elim
    rw [readAttributes_short short]
    exact .done short

end FragglePacket.Wire
