import FragglePacket.Fuzzing.Build

/-! What of a stack of layers reaches the wire. The builder stops at the first raw
layer, leaves out options that do not fit, and spends two bytes too many on each tag. -/

namespace FragglePacket.Fuzzing

open FragglePacket.Wire

/-- The `/` operator: one more layer on top. -/
def Packet.div (packet : Packet) (layer : Layer) : Packet := ⟨packet.layers ++ [layer]⟩

/-- The packet that `/` makes of these layers. -/
def stack (layers : List Layer) : Packet := layers.foldl Packet.div ⟨[]⟩

/-- The bytes a layer has to take by itself. -/
def Layer.ownSize : Layer → Nat
  | .ether _ => 14
  | .vlan _ => 4
  | .ip _ => 20
  | .ipv6 _ => 40
  | .tcp t => 20 + (serializeTcpOptions t.options).length
  | .udp _ => 8
  | .icmp _ => 8
  | .icmpv6 _ => 4
  | .raw r => r.load.length

def Layer.load? : Layer → Option Bytes
  | .raw r => some r.load
  | _ => none

def loads (layers : List Layer) : List Bytes := layers.filterMap Layer.load?

/-- The pieces stand in the bytes one behind the other. -/
def InOrder : List Bytes → Bytes → Prop
  | [], _ => True
  | piece :: pieces, bytes => ∃ front tail, bytes = front ++ (piece ++ tail) ∧ InOrder pieces tail

/-- No layer is lost: the sizes add up, and the raw loads are there in order. -/
structure LosesNothing (layers : List Layer) (bytes : Bytes) : Prop where
  size : bytes.length = (layers.map Layer.ownSize).sum
  loads : InOrder (loads layers) bytes

/-- The layers up to the first raw layer. -/
def reached : List Layer → List Layer
  | [] => []
  | layer :: upper => if layer.isRaw then [layer] else layer :: reached upper

/-- The layers behind the first raw layer. -/
def hidden : List Layer → List Layer
  | [] => []
  | layer :: upper => if layer.isRaw then upper else hidden upper

/-- A tag writes its protocol identifier although the header in front of it ends in one. -/
def Layer.excess : Layer → Nat
  | .vlan _ => 2
  | _ => 0

/-- The option bytes a TCP header has no room for. -/
def Layer.dropped : Layer → Nat
  | .tcp t =>
    if (serializeTcpOptions t.options).length ≤ 40 then 0
    else (serializeTcpOptions t.options).length
  | _ => 0

def added (layers : List Layer) : Nat := ((reached layers).map Layer.excess).sum

def lost (layers : List Layer) : Nat :=
  ((reached layers).map Layer.dropped).sum + ((hidden layers).map Layer.ownSize).sum

/-- As many bytes are added as lost, and no load is hidden. -/
structure Kept (layers : List Layer) : Prop where
  balanced : added layers = lost layers
  loads : ∀ load ∈ loads (hidden layers), load = []

@[simp] theorem stack_layers (layers : List Layer) : (stack layers).layers = layers := by
  have appended : ∀ packet : Packet, (layers.foldl Packet.div packet).layers =
      packet.layers ++ layers := by
    induction layers with
    | nil => simp
    | cons layer rest ih => simp [ih, Packet.div]
  exact appended ⟨[]⟩

theorem reached_append_hidden (layers : List Layer) : reached layers ++ hidden layers = layers := by
  induction layers with
  | nil => rfl
  | cons layer upper ih =>
    cases below : layer.isRaw with
    | true => simp [reached, hidden, below]
    | false => simp [reached, hidden, below, ih]

theorem headerSize_balance (layer : Layer) :
    layer.headerSize + layer.dropped = layer.ownSize + layer.excess := by
  cases layer with
  | tcp t =>
    simp only [Layer.headerSize, Layer.dropped, Layer.ownSize, Layer.excess, Tcp.optionBytes]
    split <;> simp
  | _ => rfl

theorem encodedSize_eq_reached (layers : List Layer) :
    encodedSize layers = ((reached layers).map Layer.headerSize).sum := by
  induction layers using stack_induction with
  | nil => rfl
  | raw r upper => simp [reached, Layer.isRaw, Layer.headerSize]
  | cons layer upper below ih => simp [reached, below, encodedSize_cons below, ih]

/-- What the builder writes and what it leaves out, against what the layers take. -/
theorem encodedSize_balance (layers : List Layer) :
    encodedSize layers + lost layers = (layers.map Layer.ownSize).sum + added layers := by
  have own : (layers.map Layer.ownSize).sum =
      ((reached layers).map Layer.ownSize).sum + ((hidden layers).map Layer.ownSize).sum := by
    rw [← List.sum_append, ← List.map_append, reached_append_hidden]
  have written : ((reached layers).map Layer.headerSize).sum +
      ((reached layers).map Layer.dropped).sum =
      ((reached layers).map Layer.ownSize).sum + ((reached layers).map Layer.excess).sum := by
    generalize reached layers = front
    induction front with
    | nil => rfl
    | cons layer rest ih =>
      have here := headerSize_balance layer
      simp only [List.map_cons, List.sum_cons]
      omega
  rw [encodedSize_eq_reached, own, lost, added]
  omega

theorem inOrder_of_empty {pieces : List Bytes} (empty : ∀ piece ∈ pieces, piece = [])
    (bytes : Bytes) :
    InOrder pieces bytes := by
  induction pieces generalizing bytes with
  | nil => trivial
  | cons piece rest ih =>
    obtain rfl := empty piece List.mem_cons_self
    exact ⟨[], bytes, rfl, ih (fun other member =>
      empty other (List.mem_cons_of_mem _ member)) bytes⟩

theorem InOrder.behind {pieces : List Bytes} {bytes : Bytes} (front : Bytes)
    (ordered : InOrder pieces bytes) : InOrder pieces (front ++ bytes) := by
  cases pieces with
  | nil => trivial
  | cons piece rest =>
    obtain ⟨before, tail, rfl, later⟩ := ordered
    exact ⟨front ++ before, tail, by rw [List.append_assoc], later⟩

/-- The first raw load ends the bytes, in front of nothing. -/
theorem loads_inOrder {crate : Etherparse} (documented : crate.Documented) {overflowChecks : Bool}
    {draw : Nat → UInt16} {layers : List Layer} {bytes : Bytes}
    (built : buildLayers crate overflowChecks draw layers = .ok bytes)
    (empty : ∀ load ∈ loads (hidden layers), load = []) : InOrder (loads layers) bytes := by
  induction layers using stack_induction generalizing bytes with
  | nil => trivial
  | raw r upper =>
    obtain rfl := Except.ok.inj built
    exact ⟨[], [], by simp, inOrder_of_empty empty []⟩
  | cons layer upper below ih =>
    obtain ⟨rest, above, _, rfl⟩ := (buildLayers_cons documented below bytes).mp built
    have skipped : loads (layer :: upper) = loads upper := by
      cases layer with
      | raw r => cases below
      | _ => rfl
    rw [hidden, below] at empty
    rw [skipped]
    exact (ih above empty).behind _

theorem loads_hidden_empty {layers : List Layer}
    (none : ((hidden layers).map Layer.ownSize).sum = 0) :
    ∀ load ∈ loads (hidden layers), load = [] := by
  intro load member
  obtain ⟨layer, here, same⟩ := List.mem_filterMap.mp member
  have size : layer.ownSize = 0 :=
    List.sum_eq_zero_iff_forall_eq_nat.mp none _ (List.mem_map_of_mem here)
  cases layer with
  | raw r =>
    obtain rfl := Option.some.inj same
    exact List.length_eq_zero_iff.mp size
  | _ => cases same

/-- A build that adds as much as it loses, and hides no load, keeps every layer. Only
with as many bytes added by tags as lost elsewhere can another build do so. -/
theorem build_loses_nothing {crate : Etherparse} (documented : crate.Documented)
    (overflowChecks : Bool) (draw : Nat → UInt16) (layers : List Layer) (bytes : Bytes)
    (built : (stack layers).build crate overflowChecks draw = .ok bytes) :
    (Kept layers → LosesNothing layers bytes) ∧
      (LosesNothing layers bytes → added layers = lost layers ∧ (added layers = 0 →
        Kept layers)) := by
  rw [Packet.build, stack_layers] at built
  have size := buildLayers_length documented built
  have balance := encodedSize_balance layers
  constructor
  · intro kept
    have balanced := kept.balanced
    exact ⟨by omega, loads_inOrder documented built kept.loads⟩
  · intro whole
    have balanced : added layers = lost layers := by
      have sum := whole.size
      omega
    refine ⟨balanced, fun none => ⟨balanced, loads_hidden_empty ?_⟩⟩
    rw [none, lost] at balanced
    omega

theorem build_loses_nothing_datagram : ∃ bytes,
    (stack [.ip (.new 1), .udp ⟨7, 9, .auto⟩, .raw ⟨[67, 68]⟩]).build .reference true (fun _ => 0) =
      .ok bytes ∧ LosesNothing [.ip (.new 1), .udp ⟨7, 9, .auto⟩, .raw ⟨[67, 68]⟩] bytes :=
  ⟨_, rfl, (build_loses_nothing Etherparse.reference_documented true (fun _ => 0)
    [.ip (.new 1), .udp ⟨7, 9, .auto⟩, .raw ⟨[67, 68]⟩] _ rfl).1 ⟨rfl, by
      simp [loads, hidden, Layer.isRaw]⟩⟩

/-- The layer behind a raw one is gone. -/
theorem build_hides_layers : ¬ ∀ (crate : Etherparse), crate.Documented → ∀ (overflowChecks : Bool)
    (draw : Nat → UInt16) (layers : List Layer) (bytes : Bytes),
      (stack layers).build crate overflowChecks draw = .ok bytes → LosesNothing layers bytes := by
  intro claim
  have size := (claim .reference Etherparse.reference_documented true (fun _ => 0)
    [.ip (.new 1), .raw ⟨[67]⟩, .udp ⟨7, 9, .auto⟩] _ rfl).size
  revert size
  decide

end FragglePacket.Fuzzing
