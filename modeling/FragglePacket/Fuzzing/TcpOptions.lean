import FragglePacket.Fuzzing.Build
import FragglePacket.Wire.Options

/-! TCP options as a receiver decodes them. The header's setter refuses more than 40
bytes of options, and the builder goes on without them. -/

namespace FragglePacket.Fuzzing

open FragglePacket.Wire

/-- The kind and value an option is written with; a NOP is a filler. -/
def TcpOpt.record : TcpOpt → Opt
  | .nop => none
  | .mss value => some (2, be16 value)
  | .wScale value => some (3, [value])
  | .sAckOK => some (4, [])
  | .timestamp tsval tsecr => some (8, be32 tsval ++ be32 tsecr)

def TcpOpt.isNop : TcpOpt → Bool
  | .nop => true
  | _ => false

/-- Reads an option by its kind, when its value has the length the kind asks for. -/
def decodeOption : UInt8 × Bytes → Option TcpOpt
  | (2, [high, low]) => some (.mss (readBe16 high low))
  | (3, [value]) => some (.wScale value)
  | (4, []) => some .sAckOK
  | (8, [a, b, c, d, e, f, g, h]) => some (.timestamp (readBe32 a b c d) (readBe32 e f g h))
  | _ => none

def decodeOptions (area : Bytes) : Option (List TcpOpt) :=
  (optionWalk area).bind (·.mapM decodeOption)

/-- The bytes between the fixed part of a TCP header and its data offset. -/
def optionArea (header : Bytes) : Bytes :=
  (header.drop 20).take ((header.getD 12 0).toNat / 16 * 4 - 20)

/-- The options of the TCP layer on top of `before` are decoded from the header that
a build produces, and too many of them make it return its error. A raw layer in `before`
leaves no header. -/
structure OptionsSurvive (before : List Layer) (t : Tcp) (result : Except Failure Bytes) :
    Prop where
  decoded : (∀ layer ∈ before, layer.isRaw = false) → ∀ bytes, result = .ok bytes →
    decodeOptions (optionArea (bytes.drop (encodedSize before))) =
      some (t.options.filter fun option => !option.isNop)
  refused : 40 < (t.options.map fun option => option.bytes.length).sum →
    ∃ message, result = .error (.build message)

theorem TcpOpt.bytes_eq (option : TcpOpt) : option.bytes = option.record.bytes := by
  cases option <;> rfl

theorem TcpOpt.record_wellFormed (option : TcpOpt) : option.record.WellFormed := by
  cases option <;> simp [TcpOpt.record, Opt.WellFormed]

/-- Padding is more fillers. -/
theorem serializeTcpOptions_eq (opts : List TcpOpt) : ∃ fillers, serializeTcpOptions opts =
    (opts.map TcpOpt.record ++ List.replicate fillers none).flatMap Opt.bytes := by
  refine ⟨(4 - (opts.flatMap TcpOpt.bytes).length % 4) % 4, ?_⟩
  have body : opts.flatMap TcpOpt.bytes = (opts.map TcpOpt.record).flatMap Opt.bytes := by
    rw [List.flatMap_map]
    exact List.flatMap_congr fun option _ => option.bytes_eq
  have pad (count : Nat) : (List.replicate count (none : Opt)).flatMap Opt.bytes =
      List.replicate count 1 := by
    induction count with
    | zero => rfl
    | succ count ih => simp [List.replicate_succ, ih, Opt.bytes]
  rw [List.flatMap_append, ← body, pad]
  rfl

/-- A record is decoded to the option it was written for. -/
theorem decodeOption_record {option : TcpOpt} {record : UInt8 × Bytes}
    (written : option.record = some record) :
    decodeOption record = some option := by
  cases option with
  | nop => cases written
  | mss value =>
    obtain rfl := Option.some.inj written
    exact congrArg (fun word => some (TcpOpt.mss word)) (readBe16_bytes value)
  | wScale value =>
    obtain rfl := Option.some.inj written
    rfl
  | sAckOK =>
    obtain rfl := Option.some.inj written
    rfl
  | timestamp tsval tsecr =>
    obtain rfl := Option.some.inj written
    exact congrArg₂ (fun first second => some (TcpOpt.timestamp first second))
      (readBe32_bytes tsval)
      (readBe32_bytes tsecr)

theorem mapM_decodeOption (opts : List TcpOpt) :
    (opts.map TcpOpt.record).reduceOption.mapM decodeOption =
      some (opts.filter fun option => !option.isNop) := by
  induction opts with
  | nil => rfl
  | cons option rest ih =>
    cases written : option.record with
    | none =>
      have nop : option.isNop = true := by
        cases option with
        | nop => rfl
        | _ => cases written
      rw [List.map_cons, written, List.reduceOption_cons_of_none, ih,
        List.filter_cons_of_neg (by simp [nop])]
    | some record =>
      have kept : option.isNop = false := by
        cases option with
        | nop => cases written
        | _ => rfl
      rw [List.map_cons, written, List.reduceOption_cons_of_some, List.mapM_cons,
        decodeOption_record written, ih, List.filter_cons_of_pos (by simp [kept])]
      rfl

/-- What the serializer writes is decoded to the options without the NOPs. -/
theorem decodeOptions_serialize (opts : List TcpOpt) :
    decodeOptions (serializeTcpOptions opts) = some (opts.filter fun option => !option.isNop) := by
  obtain ⟨fillers, written⟩ := serializeTcpOptions_eq opts
  have wellFormed : ∀ opt ∈ opts.map TcpOpt.record ++ List.replicate fillers none,
      opt.WellFormed := by
    intro opt member
    rcases List.mem_append.mp member with record | filler
    · obtain ⟨option, _, rfl⟩ := List.mem_map.mp record
      exact option.record_wellFormed
    · rw [(List.mem_replicate.mp filler).2]
      trivial
  rw [decodeOptions, written, optionWalk_flatMap wellFormed, List.reduceOption_append,
    List.reduceOption_replicate_none, List.append_nil]
  exact mapM_decodeOption opts

theorem serializeTcpOptions_fits_iff (opts : List TcpOpt) : (serializeTcpOptions opts).length ≤ 40 ↔
    (opts.map fun option => option.bytes.length).sum ≤ 40 := by
  have length : (opts.flatMap TcpOpt.bytes).length =
      (opts.map fun option => option.bytes.length).sum := by
    rw [List.length_flatMap]
  simp only [serializeTcpOptions, List.length_append, List.length_replicate, ← length]
  omega

/-- The data offset of a header counts its option words. -/
theorem offsetWord_words (header : TcpHeader) (fits : header.options.length ≤ 40) :
    (highByte header.offsetWord).toNat / 16 = 5 + header.options.length / 4 := by
  rw [highByte_toNat, TcpHeader.offsetWord, UInt16.toNat_ofNat']
  have flags : ∀ (flag : Bool) (weight : Nat), (if flag then weight else 0) ≤ weight := by
    intro flag weight
    split
    · exact Nat.le_refl _
    · exact Nat.zero_le _
  have ns := flags header.ns 256
  have cwr := flags header.cwr 128
  have ece := flags header.ece 64
  have urg := flags header.urg 32
  have ack := flags header.ack 16
  have psh := flags header.psh 8
  have rst := flags header.rst 4
  have syn := flags header.syn 2
  have fin := flags header.fin 1
  dsimp only
  omega

/-- The option area of a header in front of other bytes holds its options. -/
theorem optionArea_layout (header : TcpHeader) (fits : header.options.length ≤ 40)
    (aligned : header.options.length % 4 = 0) (rest : Bytes) :
    optionArea (header.layout ++ rest) = header.options := by
  have shape : header.layout ++ rest =
      (be16 header.sourcePort ++ be16 header.destinationPort ++ be32 header.sequenceNumber ++
        be32 header.acknowledgmentNumber ++ be16 header.offsetWord ++ be16 header.windowSize ++
        be16 header.checksum ++ be16 header.urgentPointer) ++ (header.options ++ rest) := by
    simp [TcpHeader.layout]
  have offset : (header.layout ++ rest).getD 12 0 = highByte header.offsetWord := by
    rw [shape]
    rfl
  have body : (header.layout ++ rest).drop 20 = header.options ++ rest := by
    rw [shape]
    exact List.drop_left' rfl
  rw [optionArea, offset, body, offsetWord_words header fits]
  exact List.take_left' (by omega)

theorem overwrite_tcpLayout (header : TcpHeader) (value : UInt16) :
    overwrite header.layout 16 value = { header with checksum := value }.layout := by
  have room : 16 + 2 ≤ header.layout.length := by
    rw [TcpHeader.layout_length]
    omega
  rw [overwrite, if_pos room]
  simp [TcpHeader.layout, TcpHeader.offsetWord, be16, be32]

/-- A TCP layer writes the layout of its header with some checksum. -/
theorem tcp_headerBytes (t : Tcp) (random : UInt16) (upper : List Layer) (size : Nat) :
    ∃ checksum, (Layer.tcp t).headerBytes random upper size =
      { t.plainHeader with checksum := checksum }.layout := by
  cases mode : t.checksum with
  | auto => exact ⟨t.plainHeader.checksum, by simp [Layer.headerBytes, mode, overrideChecksum]⟩
  | fixed value =>
    exact ⟨value, by simp only [Layer.headerBytes, mode, overrideChecksum, overwrite_tcpLayout]⟩
  | bad =>
    exact ⟨random, by simp only [Layer.headerBytes, mode, overrideChecksum, overwrite_tcpLayout]⟩

/-- Options survive exactly when they fit, or when the build of the stack returns an error
for another reason. -/
theorem build_options_survive_iff {crate : Etherparse} (documented : crate.Documented)
    (overflowChecks : Bool) (draw : Nat → UInt16) (before upper : List Layer) (t : Tcp) :
    OptionsSurvive before t
        (Packet.build crate overflowChecks draw ⟨before ++ .tcp t :: upper⟩) ↔
      (t.options.map fun option => option.bytes.length).sum ≤ 40 ∨
        ¬ Buildable overflowChecks (before ++ .tcp t :: upper) ∧
          ¬ Panics overflowChecks (before ++ .tcp t :: upper) := by
  have fails := buildLayers_error_iff documented overflowChecks draw (before ++ .tcp t :: upper)
  constructor
  · intro ⟨_, refused⟩
    rw [or_iff_not_imp_left]
    intro long
    exact fails.mp (refused (Nat.not_le.mp long))
  · intro condition
    constructor
    · intro noRaw bytes built
      obtain ⟨front, tail, rfl, size, builtTail⟩ := buildLayers_append documented noRaw built
      obtain ⟨rest, _, _, rfl⟩ := (buildLayers_cons documented rfl tail).mp builtTail
      have builds := (buildLayers_ok_iff documented overflowChecks draw _).mp ⟨_, built⟩
      have fits : (serializeTcpOptions t.options).length ≤ 40 :=
        (serializeTcpOptions_fits_iff _).mpr (condition.resolve_right fun stuck => stuck.1 builds)
      have kept : t.optionBytes = serializeTcpOptions t.options := if_pos fits
      obtain ⟨checksum, layout⟩ := tcp_headerBytes t (draw upper.length) upper rest.length
      rw [List.drop_left' size, layout,
        optionArea_layout _ t.optionBytes_length_le t.optionBytes_aligned]
      exact (congrArg decodeOptions kept).trans (decodeOptions_serialize t.options)
    · intro long
      exact fails.mpr (condition.resolve_left (Nat.not_le.mpr long))

theorem build_options_survive_syn :
    OptionsSurvive [] { Tcp.new 1024 1 with options := [.mss 1460, .nop, .wScale 7] }
    (Packet.build .reference true (fun _ => 0)
      ⟨[.tcp { Tcp.new 1024 1 with options := [.mss 1460, .nop, .wScale 7] }]⟩) :=
  (build_options_survive_iff Etherparse.reference_documented true (fun _ => 0) [] [] _).mpr
    (.inl (by decide))

/-- Eleven MSS options are four bytes too many, and the build goes through without them. -/
theorem build_drops_options : ¬ ∀ (crate : Etherparse), crate.Documented → ∀ (overflowChecks : Bool)
    (draw : Nat → UInt16) (before upper : List Layer) (t : Tcp),
      OptionsSurvive before t (Packet.build crate overflowChecks draw
        ⟨before ++ .tcp t :: upper⟩) := by
  intro claim
  have survive := claim .reference Etherparse.reference_documented true (fun _ => 0) [] []
    { Tcp.new 1024 1 with options := List.replicate 11 (.mss 1460) }
  obtain ⟨message, failed⟩ := survive.refused (by decide)
  cases failed

end FragglePacket.Fuzzing
