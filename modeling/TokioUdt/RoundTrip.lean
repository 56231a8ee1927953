import TokioUdt.Packet

/-!
# tokio-udt: decoding an encoded control packet

**Statement.**  `UdtControlPacket::deserialize` undoes
`UdtControlPacket::serialize` on every field of every control packet, with one
exception fixed by the wire format: the 16-byte address field of a handshake
does not say which IP version it carries.  `HandShakeInfo::deserialize` reads
it as IPv4 when its last 12 bytes are zero, so an IPv6 address of that shape
(for example `::`) comes back as the IPv4 address of its first 4 bytes.
`canonical` is the packet after that one rewrite.

**Results.**
* one round-trip lemma per Control Information Field
  (`HandShakeInfo.deserialize_serialize`, `AckInfo.deserialize_serialize`, ...);
* `UdtControlPacket.deserialize_serialize`: decoding the encoding of `p` gives
  `p.canonical`, also through `UdtPacket::deserialize`;
* `handshake_unspecified_ipv6_reads_as_ipv4`: the exception is real;
* `new_packets_read_back`: the packets the `new_*` constructors build come back
  unchanged, a handshake's outside the exception;
* `peer_reads_built_sequence_numbers`: `ack_seq_number()` and `msg_seq_number()`
  of what a peer reads give back the numbers the packet was built with.
-/

namespace TokioUdt

/-- The address the handshake decoder reads back for `ip`. -/
def IpAddr.canonical : IpAddr → IpAddr
  | .v4 o => .v4 o
  | .v6 o =>
      if (o.toList.drop 4).all (· == 0) then
        .v4 ⟨o.toList.take 4, by simp [o.length_eq]⟩
      else .v6 o

/-- Only an IPv6 address with 12 trailing zero bytes is read back differently. -/
theorem IpAddr.canonical_eq_self_iff (ip : IpAddr) :
    ip.canonical = ip ↔ ∀ o, ip = .v6 o → (o.toList.drop 4).all (· == 0) = false := by
  cases ip with
  | v4 o =>
      simp [IpAddr.canonical]
  | v6 o =>
      cases h : (o.toList.drop 4).all (· == 0) <;> simp [IpAddr.canonical, h] <;> simpa using h

/-- A handshake with its address as the decoder reads it back. -/
def HandShakeInfo.canonical (hs : HandShakeInfo) : HandShakeInfo :=
  { hs with ipAddress := hs.ipAddress.canonical }

/-- A packet type with a handshake's address as the decoder reads it back. -/
def ControlPacketType.canonical : ControlPacketType → ControlPacketType
  | .handshake hs => .handshake hs.canonical
  | pt => pt

/-- A control packet with a handshake's address as the decoder reads it back. -/
def UdtControlPacket.canonical (p : UdtControlPacket) : UdtControlPacket :=
  { p with packetType := p.packetType.canonical }

section Cif

@[simp] theorem ipToBytes_length (ip : IpAddr) : (ipToBytes ip).length = 16 := by
  cases ip with
  | v4 o =>
      simp [ipToBytes, o.length_eq]
  | v6 o =>
      simp [ipToBytes, o.length_eq]

/-- The address block reads back `ip.canonical` after 32 bytes of fields. -/
theorem deserializeAddr_append (xs : List UInt8) (ip : IpAddr) (h : xs.length = 32) :
    HandShakeInfo.deserializeAddr (xs ++ ipToBytes ip) = .ok ip.canonical := by
  simp only [HandShakeInfo.deserializeAddr,
    slice_append_of_le xs _ (by omega : xs.length ≤ 36) (by omega : 36 ≤ 48),
    slice_append_of_le xs _ (by omega : xs.length ≤ 32) (by omega : 32 ≤ 36),
    slice_append_of_le xs _ (by omega : xs.length ≤ 32) (by omega : 32 ≤ 48), h]
  cases ip with
  | v4 o =>
      have hlen := o.length_eq
      simp [ipToBytes, slice_eq_ok, hlen, IpAddr.canonical, List.drop_append_eq_append_drop]
  | v6 o =>
      have hlen := o.length_eq
      have htrail : (o.toList.drop 4).take 12 = o.toList.drop 4 :=
        List.take_of_length_le (by simp [hlen])
      have hall : o.toList.take 16 = o.toList := List.take_of_length_le (by simp [hlen])
      simp [ipToBytes, slice_eq_ok, hlen, IpAddr.canonical, htrail, hall]
      split_ifs <;> rfl

theorem HandShakeInfo.deserialize_serialize (repr : SocketTypeRepr) (hs : HandShakeInfo) :
    HandShakeInfo.deserialize repr (hs.serialize repr) = .ok hs.canonical := by
  rw [HandShakeInfo.serialize, HandShakeInfo.deserialize, deserializeAddr_append _ _ (by simp)]
  simp [getU32_eq_u32At, u32At_append_of_le, i32At_append_of_le, repr.tryFrom_asU32,
    HandShakeInfo.canonical]

theorem AckInfo.deserialize_serialize (ack : AckInfo) :
    AckInfo.deserialize ack.serialize = .ok ack := by
  obtain ⟨n, _ | ⟨rtt, var, buf, rate, cap⟩⟩ := ack
  · simp [AckInfo.deserialize, AckInfo.serialize, getU32_eq_u32At]
  · simp [AckInfo.deserialize, AckInfo.serialize, getU32_eq_u32At, u32At_append_of_le]

theorem NakInfo.deserialize_serialize (nak : NakInfo) :
    NakInfo.deserialize nak.serialize = .ok nak := by
  have hchunks : ∀ ws : List UInt32,
      chunks4 (ws.flatMap u32ToBeBytes) = ws.map u32ToBeBytes := by
    intro ws
    induction ws with
    | nil =>
        rfl
    | cons w ws ih =>
        rw [List.flatMap_cons, chunks4_append (u32ToBeBytes_length w), ih, List.map_cons]
  rw [NakInfo.deserialize_eq, NakInfo.serialize, hchunks, List.filterMap_map]
  simp [Function.comp_def, u32FromBeBytes_u32ToBeBytes]

theorem DropRequestInfo.deserialize_serialize (drop : DropRequestInfo) :
    DropRequestInfo.deserialize drop.serialize = .ok drop := by
  simp [DropRequestInfo.deserialize, DropRequestInfo.serialize, getU32_eq_u32At,
    u32At_append_of_le]

end Cif

section Header

/-- The decoder masks off the control bit that the encoder adds. -/
@[simp] theorem ControlPacketType.typeId_typeAsU15 (pt : ControlPacketType) :
    (0x8000 + pt.typeAsU15) &&& 0x7FFF = pt.typeAsU15 := by
  cases pt <;> simp only [ControlPacketType.typeAsU15] <;> decide

/-- `ControlPacketType::deserialize` after a 16-byte header carrying the type. -/
theorem ControlPacketType.deserialize_controlInfoField (repr : SocketTypeRepr)
    (pt : ControlPacketType) (header : List UInt8) (hlen : header.length = 16)
    (htype : u16At header 0 = .ok (0x8000 + pt.typeAsU15)) :
    ControlPacketType.deserialize repr (header ++ pt.controlInfoField repr) =
      .ok pt.canonical := by
  have hcif := sliceFrom_append header (pt.controlInfoField repr)
  rw [hlen] at hcif
  have hread : u16At (header ++ pt.controlInfoField repr) 0 = .ok (0x8000 + pt.typeAsU15) := by
    rw [u16At, beAt_append_of_le_length _ _ (by omega), ← u16At, htype]
  rw [ControlPacketType.deserialize, hread, except_ok_bind, ControlPacketType.typeId_typeAsU15]
  cases pt <;> simp only [ControlPacketType.typeAsU15, hcif] <;>
    simp [ControlPacketType.controlInfoField, ControlPacketType.canonical,
      HandShakeInfo.deserialize_serialize, AckInfo.deserialize_serialize,
      NakInfo.deserialize_serialize, DropRequestInfo.deserialize_serialize]

/-- Decoding the encoding of a control packet gives it back, with a handshake's
address as `canonical` reads it. -/
theorem UdtControlPacket.deserialize_serialize (repr : SocketTypeRepr) (p : UdtControlPacket) :
    UdtControlPacket.deserialize repr (p.serialize repr) = .ok p.canonical := by
  have hlen : (u16ToBeBytes (0x8000 + p.packetType.typeAsU15) ++ u16ToBeBytes p.reserved ++
      u32ToBeBytes p.additionalInfo ++ u32ToBeBytes p.timestamp ++
      u32ToBeBytes p.destSocketId).length = 16 := by simp
  rw [UdtControlPacket.serialize, UdtControlPacket.deserialize,
    ControlPacketType.deserialize_controlInfoField repr _ _ hlen (by simp [List.append_assoc])]
  simp [u16At_append_of_le, u32At_append_of_le, UdtControlPacket.canonical]
  omega

/-- The first byte of an encoded control packet has its top bit set. -/
theorem ControlPacketType.typeField_msb (pt : ControlPacketType) :
    ∃ b rest, u16ToBeBytes (0x8000 + pt.typeAsU15) = b :: rest ∧ ((b >>> 7) != 0) = true := by
  cases pt <;> simp only [ControlPacketType.typeAsU15] <;> exact ⟨_, _, rfl, by decide⟩

/-- `UdtPacket::deserialize` of an encoded control packet takes the control branch. -/
theorem UdtPacket.deserialize_serialize_control {D : Type} (repr : SocketTypeRepr)
    (serializeData : D → List UInt8) (deserializeData : List UInt8 → Except Fault D)
    (p : UdtControlPacket) :
    UdtPacket.deserialize repr deserializeData ((UdtPacket.control p).serialize repr serializeData) =
      .ok (.control p.canonical) := by
  obtain ⟨b, rest, hbytes, hbit⟩ := ControlPacketType.typeField_msb p.packetType
  obtain ⟨tail, htail⟩ : ∃ tail, p.serialize repr = b :: tail :=
    ⟨_, by rw [UdtControlPacket.serialize, hbytes]; rfl⟩
  rw [UdtPacket.serialize, htail, UdtPacket.deserialize_of_msb repr deserializeData tail hbit,
    ← htail, UdtControlPacket.deserialize_serialize]
  rfl

/-- The packets that come back unchanged: all but handshakes carrying an IPv6
address with 12 trailing zero bytes. -/
theorem UdtControlPacket.canonical_eq_self_iff (p : UdtControlPacket) :
    p.canonical = p ↔ ∀ hs o, p.packetType = .handshake hs → hs.ipAddress = .v6 o →
      (o.toList.drop 4).all (· == 0) = false := by
  obtain ⟨pt, reserved, info, ts, dest⟩ := p
  cases pt with
  | handshake hs =>
      have hhs : { hs with ipAddress := hs.ipAddress.canonical } = hs ↔
          hs.ipAddress.canonical = hs.ipAddress := by
        cases hs
        simp
      simp only [UdtControlPacket.canonical, ControlPacketType.canonical,
        HandShakeInfo.canonical, UdtControlPacket.mk.injEq, ControlPacketType.handshake.injEq,
        and_true, hhs, IpAddr.canonical_eq_self_iff]
      constructor
      · rintro h _ o rfl
        exact h o
      · exact fun h o => h hs o rfl
  | _ =>
      simp [UdtControlPacket.canonical, ControlPacketType.canonical]

end Header

/-- Encoding then decoding a control packet gives back every field of every packet
type, directly and through `UdtPacket::deserialize`, except the address of a
handshake carrying an IPv6 address with 12 trailing zero bytes, which comes back
as an IPv4 address. -/
theorem control_packet_round_trip {D : Type} (repr : SocketTypeRepr)
    (serializeData : D → List UInt8) (deserializeData : List UInt8 → Except Fault D)
    (p : UdtControlPacket) :
    UdtControlPacket.deserialize repr (p.serialize repr) = .ok p.canonical ∧
      UdtPacket.deserialize repr deserializeData
        ((UdtPacket.control p).serialize repr serializeData) = .ok (.control p.canonical) ∧
      (p.canonical = p ↔ ∀ hs o, p.packetType = .handshake hs → hs.ipAddress = .v6 o →
        (o.toList.drop 4).all (· == 0) = false) :=
  ⟨UdtControlPacket.deserialize_serialize repr p,
    UdtPacket.deserialize_serialize_control repr serializeData deserializeData p,
    UdtControlPacket.canonical_eq_self_iff p⟩

/-- A handshake advertising the IPv6 address `::`. -/
def unspecifiedIpv6Handshake : UdtControlPacket where
  packetType := .handshake
    { udtVersion := 4, socketType := .stream, initialSeqNumber := ⟨0, by decide⟩,
      maxPacketSize := 1500, maxWindowSize := 8192, connectionType := ⟨1, by decide, by decide⟩,
      socketId := 1, synCookie := 0, ipAddress := .v6 ⟨List.replicate 16 0, rfl⟩ }
  reserved := 0
  additionalInfo := 0
  timestamp := 0
  destSocketId := 0

theorem handshake_unspecified_ipv6_reads_as_ipv4 :
    UdtControlPacket.deserialize SocketTypeRepr.oneTwo
        (unspecifiedIpv6Handshake.serialize SocketTypeRepr.oneTwo) ≠
      .ok unspecifiedIpv6Handshake := by
  intro h
  have hopt := congrArg Except.toOption h
  revert hopt
  decide

section Builders

/-- The `new_*` constructors leave the packet type to `canonical`. -/
theorem UdtControlPacket.withZeroHeader_canonical (pt : ControlPacketType) (dest : SocketId) :
    (UdtControlPacket.withZeroHeader pt dest).canonical =
      UdtControlPacket.withZeroHeader pt.canonical dest :=
  rfl

/-- A packet that is its own `canonical` form comes back from its encoding. -/
theorem UdtPacket.deserialize_serialize_of_canonical {D : Type} (repr : SocketTypeRepr)
    (serializeData : D → List UInt8) (deserializeData : List UInt8 → Except Fault D)
    {p : UdtControlPacket} (hp : p.canonical = p) :
    UdtPacket.deserialize repr deserializeData ((UdtPacket.control p).serialize repr serializeData) =
      .ok (.control p) := by
  rw [UdtPacket.deserialize_serialize_control, hp]

/-- Every packet the `new_*` constructors build is read back unchanged from its
encoding, a handshake when its address is not an IPv6 address with 12 trailing
zero bytes. -/
theorem new_packets_read_back {D : Type} (repr : SocketTypeRepr)
    (serializeData : D → List UInt8) (deserializeData : List UInt8 → Except Fault D)
    (dest : SocketId) (hs : HandShakeInfo) (lossList : List UInt32) (ack : AckSeqNumber)
    (msgId : MsgNumber) (next first last : SeqNumber) (info : Option AckOptionalInfo)
    (hip : hs.ipAddress.canonical = hs.ipAddress) :
    ∀ p ∈ [UdtControlPacket.newHandshake hs dest, .newNak lossList dest, .newAck2 ack dest,
        .newDrop msgId first last dest, .newKeepAlive dest, .newShutdown dest,
        .newAck ack next dest info],
      UdtPacket.deserialize repr deserializeData ((UdtPacket.control p).serialize repr serializeData) =
        .ok (.control p) := by
  intro p hp
  apply UdtPacket.deserialize_serialize_of_canonical
  simp only [List.mem_cons, List.not_mem_nil, or_false] at hp
  rcases hp with rfl | rfl | rfl | rfl | rfl | rfl | rfl
  · rw [UdtControlPacket.newHandshake, UdtControlPacket.withZeroHeader_canonical,
      ControlPacketType.canonical, HandShakeInfo.canonical, hip]
  all_goals rfl

/-- A handshake from the IPv4 loopback address. -/
def loopbackHandshake : HandShakeInfo where
  udtVersion := 4
  socketType := .stream
  initialSeqNumber := ⟨0, by decide⟩
  maxPacketSize := 1500
  maxWindowSize := 8192
  connectionType := ⟨1, by decide, by decide⟩
  socketId := 1
  synCookie := 0
  ipAddress := .v4 ⟨[127, 0, 0, 1], rfl⟩

theorem new_packets_read_back_loopback :
    loopbackHandshake.ipAddress.canonical = loopbackHandshake.ipAddress ∧
      ∀ p ∈ [UdtControlPacket.newHandshake loopbackHandshake 2, .newNak [5, 9] 2,
          .newAck2 ⟨7, by decide⟩ 2, .newDrop ⟨1, by decide⟩ ⟨5, by decide⟩ ⟨9, by decide⟩ 2,
          .newKeepAlive 2, .newShutdown 2, .newAck ⟨7, by decide⟩ ⟨10, by decide⟩ 2 none],
        UdtPacket.deserialize SocketTypeRepr.oneTwo (fun _ => (.ok () : Except Fault Unit))
            ((UdtPacket.control p).serialize SocketTypeRepr.oneTwo fun _ : Unit => []) =
          .ok (.control p) :=
  ⟨rfl, new_packets_read_back _ _ _ 2 loopbackHandshake [5, 9] ⟨7, by decide⟩ ⟨1, by decide⟩
    ⟨10, by decide⟩ ⟨5, by decide⟩ ⟨9, by decide⟩ none rfl⟩

/-- A 31-bit number is unchanged by the mask `MsgNumber::MAX_NUMBER`. -/
theorem SeqNumber.number_and_maxNumber (s : SeqNumber) :
    s.number &&& MsgNumber.maxNumber = s.number := by
  obtain ⟨⟨bv⟩, h⟩ := s
  show (⟨bv &&& 0x7FFFFFFF#32⟩ : UInt32) = ⟨bv⟩
  congr 1
  apply BitVec.eq_of_toNat_eq
  rw [BitVec.toNat_and]
  exact (Nat.and_pow_two_sub_one_eq_mod _ 31).trans (Nat.mod_eq_of_lt h)

/-- A peer reads back the sequence numbers a packet was built with: the ACK and
the ACK2 built with `ack` answer `ack_seq_number()` with `ack`, which is what lets
an ACK2 echo its ACK, and the drop request built with `msgId` answers
`msg_seq_number()` with `msgId`. -/
theorem peer_reads_built_sequence_numbers {D : Type} (repr : SocketTypeRepr)
    (serializeData : D → List UInt8) (deserializeData : List UInt8 → Except Fault D)
    (dest : SocketId) (ack : AckSeqNumber) (msgId : MsgNumber) (next first last : SeqNumber)
    (info : Option AckOptionalInfo) :
    (∀ p ∈ [UdtControlPacket.newAck ack next dest info, .newAck2 ack dest], ∃ p',
      UdtPacket.deserialize repr deserializeData ((UdtPacket.control p).serialize repr serializeData) =
        .ok (.control p') ∧ p'.ackSeqNumber = some ack) ∧
    ∃ p', UdtPacket.deserialize repr deserializeData
        ((UdtPacket.control (.newDrop msgId first last dest)).serialize repr serializeData) =
      .ok (.control p') ∧ p'.msgSeqNumber = some msgId := by
  refine ⟨fun p hp => ?_, _, UdtPacket.deserialize_serialize_of_canonical _ _ _ rfl, ?_⟩
  · simp only [List.mem_cons, List.not_mem_nil, or_false] at hp
    rcases hp with rfl | rfl <;>
      exact ⟨_, UdtPacket.deserialize_serialize_of_canonical _ _ _ rfl,
        by simp [UdtControlPacket.ackSeqNumber, UdtControlPacket.newAck, UdtControlPacket.newAck2]⟩
  · simp [UdtControlPacket.msgSeqNumber, UdtControlPacket.newDrop, SeqNumber.number_and_maxNumber]

end Builders

end TokioUdt
