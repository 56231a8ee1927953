import TokioUdt.RoundTrip

/-!
# tokio-udt: encoding a decoded control packet

**Statement.**  The other direction of the round trip, from the frames a peer
sends.  A frame that `UdtPacket::deserialize` accepts as a control packet is
re-encoded by `UdtPacket::serialize` with the same 16 header bytes: the decoder
masks the control bit off the type field, and the encoder puts it back.  The
packet read from a frame is already `canonical` (the address decoder never
returns an IPv6 address with 12 trailing zero bytes), so encoding it and
decoding again gives it back unchanged.  Past the header, each packet type
writes back the bytes of its layout, and only two things are lost: bytes past
that layout (a NAK drops a trailing partial word, a type without a CIF
everything after the header), and bit 31 of every sequence word, which
`SeqNumber::from(u32)` masks off.  A handshake's socket type word comes back
when the socket type conversion is one to one.

**Results.**
* `ControlPacketType.deserialize_eq_ok`: what the packet-type decoder read;
* `UdtPacket.reencode_control`: the header comes back byte for byte, and a
  decoded packet survives re-encoding;
* `AckInfo.serialize_of_deserialize`, `NakInfo.serialize_of_deserialize`,
  `DropRequestInfo.serialize_of_deserialize`,
  `HandShakeInfo.serialize_of_deserialize`: what each CIF writes back;
* `UdtPacket.reencode_frame`: the whole frame as re-encoded.
-/

namespace TokioUdt

section Bits

/-- A type field with the control bit set is `0x8000 + type_id`. -/
theorem typeField_of_msb {w : UInt16} (h : 32768 ≤ w.toNat) : 0x8000 + (w &&& 0x7FFF) = w := by
  obtain ⟨bv⟩ := w
  have hbv : (0x8000 + (UInt16.mk bv &&& 0x7FFF) : UInt16) = ⟨0x8000#16 + (bv &&& 0x7FFF#16)⟩ :=
    rfl
  have hand : (bv &&& 0x7FFF#16).toNat = bv.toNat % 2 ^ 15 := by
    rw [BitVec.toNat_and]
    exact Nat.and_pow_two_sub_one_eq_mod _ 15
  rw [hbv]
  congr 1
  apply BitVec.eq_of_toNat_eq
  have := bv.isLt
  simp only [UInt16.toNat] at h
  rw [BitVec.toNat_add, hand, BitVec.toNat_ofNat]
  omega

/-- `first >> 7 != 0` says that the first byte is at least `0x80`. -/
theorem le_toNat_of_msb {first : UInt8} (h : ((first >>> 7) != 0) = true) : 128 ≤ first.toNat := by
  obtain ⟨bv⟩ := first
  have hs : (UInt8.mk bv >>> 7) = UInt8.mk (bv >>> 7) := rfl
  have h0 : (0 : UInt8) = UInt8.mk 0#8 := rfl
  rw [hs, h0, bne_iff_ne, ne_eq] at h
  simp only [UInt8.toNat]
  by_contra hlt
  apply h
  congr 1
  apply BitVec.eq_of_toNat_eq
  rw [BitVec.toNat_ushiftRight, Nat.shiftRight_eq_div_pow, BitVec.toNat_ofNat]
  omega

/-- The type field of a frame whose first bit is set has the control bit set. -/
theorem le_toNat_of_u16At_msb {first : UInt8} {rest : List UInt8} {w : UInt16}
    (hbit : ((first >>> 7) != 0) = true) (hw : u16At (first :: rest) 0 = .ok w) :
    32768 ≤ w.toNat := by
  cases rest with
  | nil =>
      rw [u16At, beAt_eq_panic (by simp)] at hw
      cases hw
  | cons second rest =>
      rw [u16At, beAt_eq_ok (by simp)] at hw
      cases hw
      have hfirst := le_toNat_of_msb hbit
      have hfirst' : first.toNat < 256 := first.toBitVec.isLt
      have hsecond : second.toNat < 256 := second.toBitVec.isLt
      simp only [u16FromBeBytes, beValue, List.drop_zero, List.take_succ_cons, List.take_zero,
        List.foldl_cons, List.foldl_nil, UInt16.toNat, UInt16.ofNat, BitVec.toNat_ofNat]
      omega

end Bits

section Header

/-- What `ControlPacketType::deserialize` read from a frame: the CIF it decoded,
from the bytes after the 16-byte header, for the types that carry one. -/
def ControlPacketType.ReadFrom (repr : SocketTypeRepr) (raw : List UInt8) :
    ControlPacketType → Prop
  | .handshake info => HandShakeInfo.deserialize repr (raw.drop 16) = .ok info
  | .ack info => AckInfo.deserialize (raw.drop 16) = .ok info
  | .nak info => NakInfo.deserialize (raw.drop 16) = .ok info
  | .msgDropRequest info => DropRequestInfo.deserialize (raw.drop 16) = .ok info
  | _ => True

/-- One CIF arm of `ControlPacketType::deserialize`. -/
theorem cif_arm_eq_ok {α : Type} {raw : List UInt8} {dec : List UInt8 → Except Fault α}
    {mk : α → ControlPacketType} {pt : ControlPacketType}
    (h : (do return mk (← dec (← sliceFrom raw 16))) = .ok pt) :
    ∃ a, pt = mk a ∧ dec (raw.drop 16) = .ok a := by
  obtain ⟨cif, hcif, h⟩ := except_bind_eq_ok h
  obtain ⟨a, ha, h⟩ := except_bind_eq_ok h
  cases h
  exact ⟨a, rfl, eq_of_sliceFrom_eq_ok hcif ▸ ha⟩

/-- Everything a successful `ControlPacketType::deserialize` did: it read the type
field `w`, returned the packet type whose id is `w` without its control bit, and
decoded that type's CIF from the rest of the frame. -/
theorem ControlPacketType.deserialize_eq_ok {repr : SocketTypeRepr} {raw : List UInt8}
    {pt : ControlPacketType} (h : ControlPacketType.deserialize repr raw = .ok pt) :
    ∃ w, u16At raw 0 = .ok w ∧ pt.typeAsU15 = w &&& 0x7FFF ∧ pt.ReadFrom repr raw := by
  obtain ⟨w, hw, h⟩ := except_bind_eq_ok h
  refine ⟨w, hw, ?_⟩
  generalize w &&& 0x7FFF = t at h ⊢
  dsimp only at h
  -- the four arms that decode a CIF, the four without one, the unknown type id
  split at h <;> first
    | (obtain ⟨_, rfl, hcif⟩ := cif_arm_eq_ok h; exact ⟨rfl, hcif⟩)
    | (cases h; exact ⟨rfl, trivial⟩)
    | cases h

/-- Everything a successful `UdtControlPacket::deserialize` did: the frame has a
full header, the four header fields are its bytes `2..16`, and the packet type
was read from the frame. -/
theorem UdtControlPacket.deserialize_eq_ok {repr : SocketTypeRepr} {raw : List UInt8}
    {p : UdtControlPacket} (h : UdtControlPacket.deserialize repr raw = .ok p) :
    16 ≤ raw.length ∧ u16At raw 2 = .ok p.reserved ∧ u32At raw 4 = .ok p.additionalInfo ∧
      u32At raw 8 = .ok p.timestamp ∧ u32At raw 12 = .ok p.destSocketId ∧
      ControlPacketType.deserialize repr raw = .ok p.packetType := by
  unfold UdtControlPacket.deserialize at h
  split at h
  · cases h
  obtain ⟨reserved, hr, h⟩ := except_bind_eq_ok h
  obtain ⟨info, hi, h⟩ := except_bind_eq_ok h
  obtain ⟨ts, hts, h⟩ := except_bind_eq_ok h
  obtain ⟨dest, hd, h⟩ := except_bind_eq_ok h
  obtain ⟨pt, hpt, h⟩ := except_bind_eq_ok h
  cases h
  exact ⟨by omega, hr, hi, hts, hd, hpt⟩

/-- A frame that `UdtPacket::deserialize` read as a control packet has its first
bit set, and `UdtControlPacket::deserialize` read the packet from it. -/
theorem UdtPacket.deserialize_eq_ok_control {D : Type} {repr : SocketTypeRepr}
    {deserializeData : List UInt8 → Except Fault D} {raw : List UInt8} {p : UdtControlPacket}
    (h : UdtPacket.deserialize repr deserializeData raw = .ok (.control p)) :
    ∃ first rest, raw = first :: rest ∧ ((first >>> 7) != 0) = true ∧
      UdtControlPacket.deserialize repr raw = .ok p := by
  match raw, h with
  | first :: rest, h =>
      cases hbit : (first >>> 7) != 0 with
      | false =>
          simp only [UdtPacket.deserialize, hbit] at h
          obtain ⟨d, -, h⟩ := except_bind_eq_ok h
          cases h
      | true =>
          rw [UdtPacket.deserialize_of_msb _ _ _ hbit] at h
          obtain ⟨q, hq, h⟩ := except_bind_eq_ok h
          cases h
          exact ⟨first, rest, rfl, hbit, hq⟩

/-- The 16 header bytes of a frame, field by field. -/
theorem take_sixteen (raw : List UInt8) :
    raw.take 16 = raw.take 2 ++ (raw.drop 2).take 2 ++ (raw.drop 4).take 4 ++
      (raw.drop 8).take 4 ++ (raw.drop 12).take 4 := by
  rw [show 16 = 2 + (2 + (4 + (4 + 4))) from rfl]
  simp only [List.take_add, List.drop_drop, List.append_assoc]

/-- Re-encoding a control packet read from a frame writes the frame's 16 header
bytes back, followed by the packet's CIF as the encoder writes it. -/
theorem UdtPacket.serialize_eq_header_append {D : Type} {repr : SocketTypeRepr}
    {serializeData : D → List UInt8} {deserializeData : List UInt8 → Except Fault D}
    {raw : List UInt8} {p : UdtControlPacket}
    (h : UdtPacket.deserialize repr deserializeData raw = .ok (.control p)) :
    (UdtPacket.control p).serialize repr serializeData =
      raw.take 16 ++ p.packetType.controlInfoField repr := by
  obtain ⟨first, rest, rfl, hbit, hp⟩ := UdtPacket.deserialize_eq_ok_control h
  obtain ⟨-, hr, hi, hts, hd, hpt⟩ := UdtControlPacket.deserialize_eq_ok hp
  obtain ⟨w, hw, htype, -⟩ := ControlPacketType.deserialize_eq_ok hpt
  rw [UdtPacket.serialize, UdtControlPacket.serialize, htype,
    typeField_of_msb (le_toNat_of_u16At_msb hbit hw), u16At_eq_ok_bytes hw, u16At_eq_ok_bytes hr,
    u32At_eq_ok_bytes hi, u32At_eq_ok_bytes hts, u32At_eq_ok_bytes hd, List.drop_zero,
    take_sixteen (first :: rest)]

/-- A NAK frame to socket 9 reporting the loss of packet 5, with one stray byte
after the loss word. -/
def nakFrame : List UInt8 :=
  [0x80, 0x03, 0, 0, 0, 0, 0, 0, 0, 0, 0, 0, 0, 0, 0, 9, 0, 0, 0, 5, 0xAB]

/-- The packet `UdtPacket::deserialize` reads from `nakFrame`. -/
def nakPacket : UdtControlPacket := ⟨.nak ⟨[5]⟩, 0, 0, 0, 9⟩

end Header

section Canonical

/-- The address decoder reads IPv6 only when the last 12 address bytes are not
all zero, so it never returns an address that `canonical` rewrites. -/
theorem IpAddr.canonical_of_deserializeAddr {raw : List UInt8} {ip : IpAddr}
    (h : HandShakeInfo.deserializeAddr raw = .ok ip) : ip.canonical = ip := by
  obtain ⟨trailing, htrail, h⟩ := except_bind_eq_ok h
  split at h
  next =>
    obtain ⟨s, -, h⟩ := except_bind_eq_ok h
    obtain ⟨o, -, h⟩ := except_bind_eq_ok h
    cases h
    rfl
  next hnonzero =>
    obtain ⟨s, hs, h⟩ := except_bind_eq_ok h
    obtain ⟨o, ho, h⟩ := except_bind_eq_ok h
    cases h
    have hdrop : o.toList.drop 4 = trailing := by
      rw [toList_of_tryIntoOctets_eq_ok ho, eq_of_slice_eq_ok hs, eq_of_slice_eq_ok htrail,
        List.drop_take, List.drop_drop]
    rw [IpAddr.canonical, hdrop, if_neg hnonzero]

theorem HandShakeInfo.canonical_of_deserialize {repr : SocketTypeRepr} {raw : List UInt8}
    {hs : HandShakeInfo} (h : HandShakeInfo.deserialize repr raw = .ok hs) :
    hs.canonical = hs := by
  obtain ⟨addr, haddr, h⟩ := except_bind_eq_ok h
  repeat obtain ⟨_, -, h⟩ := except_bind_eq_ok h
  cases h
  rw [HandShakeInfo.canonical, IpAddr.canonical_of_deserializeAddr haddr]

theorem ControlPacketType.canonical_of_deserialize {repr : SocketTypeRepr} {raw : List UInt8}
    {pt : ControlPacketType} (h : ControlPacketType.deserialize repr raw = .ok pt) :
    pt.canonical = pt := by
  obtain ⟨-, -, -, hread⟩ := ControlPacketType.deserialize_eq_ok h
  cases pt with
  | handshake info =>
      exact congrArg ControlPacketType.handshake (HandShakeInfo.canonical_of_deserialize hread)
  | _ =>
      rfl

/-- A control packet read from a frame is its own `canonical` form. -/
theorem UdtControlPacket.canonical_of_deserialize {repr : SocketTypeRepr} {raw : List UInt8}
    {p : UdtControlPacket} (h : UdtControlPacket.deserialize repr raw = .ok p) :
    p.canonical = p := by
  obtain ⟨-, -, -, -, -, hpt⟩ := UdtControlPacket.deserialize_eq_ok h
  rw [UdtControlPacket.canonical, ControlPacketType.canonical_of_deserialize hpt]

/-- A control packet read from a frame comes back unchanged from its own encoding:
decoding after encoding is the identity on what the decoder returns. -/
theorem UdtPacket.deserialize_serialize_of_deserialize {D : Type} {repr : SocketTypeRepr}
    {serializeData : D → List UInt8} {deserializeData : List UInt8 → Except Fault D}
    {raw : List UInt8} {p : UdtControlPacket}
    (h : UdtPacket.deserialize repr deserializeData raw = .ok (.control p)) :
    UdtPacket.deserialize repr deserializeData ((UdtPacket.control p).serialize repr serializeData) =
      .ok (.control p) := by
  obtain ⟨-, -, -, -, hp⟩ := UdtPacket.deserialize_eq_ok_control h
  rw [UdtPacket.deserialize_serialize_control, UdtControlPacket.canonical_of_deserialize hp]

/-- Re-encoding a control packet read from a frame writes the frame's header back,
and the encoding decodes to the same packet. -/
theorem UdtPacket.reencode_control {D : Type} {repr : SocketTypeRepr}
    {serializeData : D → List UInt8} {deserializeData : List UInt8 → Except Fault D}
    {raw : List UInt8} {p : UdtControlPacket}
    (h : UdtPacket.deserialize repr deserializeData raw = .ok (.control p)) :
    (UdtPacket.control p).serialize repr serializeData =
        raw.take 16 ++ p.packetType.controlInfoField repr ∧
      UdtPacket.deserialize repr deserializeData
          ((UdtPacket.control p).serialize repr serializeData) = .ok (.control p) :=
  ⟨UdtPacket.serialize_eq_header_append h, UdtPacket.deserialize_serialize_of_deserialize h⟩

theorem nakFrame_reencodes :
    UdtPacket.deserialize SocketTypeRepr.oneTwo (fun _ => (.ok () : Except Fault Unit)) nakFrame =
        .ok (.control nakPacket) ∧
      (UdtPacket.control nakPacket).serialize SocketTypeRepr.oneTwo (fun _ : Unit => []) =
          nakFrame.take 16 ++ nakPacket.packetType.controlInfoField SocketTypeRepr.oneTwo ∧
        UdtPacket.deserialize SocketTypeRepr.oneTwo (fun _ => (.ok () : Except Fault Unit))
            ((UdtPacket.control nakPacket).serialize SocketTypeRepr.oneTwo (fun _ : Unit => [])) =
          .ok (.control nakPacket) :=
  ⟨rfl, @UdtPacket.reencode_control _ _ _ (fun _ => .ok ()) nakFrame _ rfl⟩

end Canonical

section Cif

/-- A big-endian word as `SeqNumber::from(u32)` and `number()` write it back:
bit 31, the top bit of its first byte, cleared. -/
def clearSeqBit (word : List UInt8) : List UInt8 :=
  word.modifyHead (· &&& 0x7F)

/-- What re-encoding writes for the CIF `cif` of a frame read as a packet of type
`pt`: the bytes of the type's layout, bit 31 of each sequence word cleared. -/
def ControlPacketType.reencodedCif (cif : List UInt8) : ControlPacketType → List UInt8
  | .handshake _ => cif.take 8 ++ clearSeqBit ((cif.drop 8).take 4) ++ (cif.drop 12).take 36
  | .ack _ => clearSeqBit (cif.take 4) ++ if cif.length ≤ 4 then [] else (cif.drop 4).take 20
  | .nak _ => cif.take (cif.length / 4 * 4)
  | .msgDropRequest _ => clearSeqBit (cif.take 4) ++ clearSeqBit ((cif.drop 4).take 4)
  | _ => []

theorem toNat_and_7F (b : UInt8) : (b &&& 0x7F).toNat = b.toNat % 128 := by
  obtain ⟨bv⟩ := b
  show (bv &&& 0x7F#8).toNat = bv.toNat % 128
  rw [BitVec.toNat_and]
  exact Nat.and_pow_two_sub_one_eq_mod _ 7

/-- A sequence number read from a word is written back as the word with bit 31
cleared. -/
theorem u32ToBeBytes_seqNumber (w : UInt32) :
    u32ToBeBytes (SeqNumber.ofU32 w).number = clearSeqBit (u32ToBeBytes w) := by
  have hw : (SeqNumber.ofU32 w).number.toNat = w.toNat % 2 ^ 31 := by
    simp only [SeqNumber.ofU32, UInt32.toNat, UInt32.ofNat, BitVec.toNat_ofNat]
    omega
  simp only [clearSeqBit, u32ToBeBytes, beBytes, hw, List.nil_append, List.singleton_append,
    List.cons_append, List.modifyHead_cons, List.cons.injEq, and_true]
  refine ⟨?_, ?_, ?_, ?_⟩ <;> apply UInt8.toNat.inj <;>
    simp only [toNat_and_7F, toNat_uint8OfNat] <;> omega

theorem getU32_eq_ok_bytes {raw : List UInt8} {idx : Nat} {v : UInt32}
    (h : getU32 raw idx = .ok v) : u32ToBeBytes v = (raw.drop (idx * 4)).take 4 :=
  u32At_eq_ok_bytes ((getU32_eq_u32At raw idx).symm.trans h)

/-- `n` bytes from `a`, as the words from `a` on. -/
theorem take_four_add (raw : List UInt8) (a n : Nat) :
    (raw.drop a).take (4 + n) = (raw.drop a).take 4 ++ (raw.drop (a + 4)).take n := by
  rw [List.take_add, List.drop_drop, Nat.add_comm]

/-- An ACK decoded from `raw` writes back its first word with bit 31 cleared,
then, for a full ACK, the next 20 bytes. -/
theorem AckInfo.serialize_of_deserialize {raw : List UInt8} {ack : AckInfo}
    (h : AckInfo.deserialize raw = .ok ack) :
    ack.serialize = clearSeqBit (raw.take 4) ++ if raw.length ≤ 4 then [] else (raw.drop 4).take 20 := by
  obtain ⟨w0, h0, h⟩ := except_bind_eq_ok h
  have hw0 := getU32_eq_ok_bytes h0
  simp only [Nat.zero_mul, List.drop_zero] at hw0
  dsimp only at h
  split at h
  next hle =>
    cases h
    simp only [AckInfo.serialize, u32ToBeBytes_seqNumber, hw0, if_pos hle, List.append_nil]
  next hgt =>
    obtain ⟨_, -, h⟩ := except_bind_eq_ok h
    obtain ⟨w1, h1, h⟩ := except_bind_eq_ok h
    obtain ⟨w2, h2, h⟩ := except_bind_eq_ok h
    obtain ⟨w3, h3, h⟩ := except_bind_eq_ok h
    obtain ⟨w4, h4, h⟩ := except_bind_eq_ok h
    obtain ⟨w5, h5, h⟩ := except_bind_eq_ok h
    cases h
    simp only [AckInfo.serialize, List.flatMap_cons, List.flatMap_nil, List.append_nil,
      u32ToBeBytes_seqNumber, hw0, getU32_eq_ok_bytes h1, getU32_eq_ok_bytes h2,
      getU32_eq_ok_bytes h3, getU32_eq_ok_bytes h4, getU32_eq_ok_bytes h5, if_neg hgt,
      Nat.reduceMul]
    rw [take_four_add raw 4 16, take_four_add raw 8 12, take_four_add raw 12 8,
      take_four_add raw 16 4]

/-- The words of the full 4-byte chunks of `raw`, written back, are `raw` cut to
whole words. -/
theorem flatMap_fullChunks : ∀ raw : List UInt8,
    ((chunks4 raw).filterMap fun c =>
        if h4 : c.length = 4 then some (u32FromBeBytes ⟨c, h4⟩) else none).flatMap u32ToBeBytes =
      raw.take (raw.length / 4 * 4)
  | [] => rfl
  | [_] | [_, _] | [_, _, _] => by simp [chunks4]
  | a :: b :: c :: d :: rest => by
      have hk : (rest.length + 1 + 1 + 1 + 1) / 4 * 4 = rest.length / 4 * 4 + 4 := by omega
      simp only [chunks4, List.filterMap_cons, List.length_cons, List.length_nil, zero_add,
        Nat.reduceAdd, dite_true, List.flatMap_cons, u32ToBeBytes_u32FromBeBytes,
        flatMap_fullChunks rest, hk]
      rfl

/-- A NAK decoded from `raw` writes back its CIF cut to whole 32-bit words:
`chunks(4)` drops a trailing partial chunk and nothing else. -/
theorem NakInfo.serialize_of_deserialize {raw : List UInt8} {nak : NakInfo}
    (h : NakInfo.deserialize raw = .ok nak) : nak.serialize = raw.take (raw.length / 4 * 4) := by
  rw [NakInfo.deserialize_eq] at h
  cases h
  exact flatMap_fullChunks raw

/-- A drop request decoded from `raw` writes back its two words with bit 31
cleared. -/
theorem DropRequestInfo.serialize_of_deserialize {raw : List UInt8} {drop : DropRequestInfo}
    (h : DropRequestInfo.deserialize raw = .ok drop) :
    drop.serialize = clearSeqBit (raw.take 4) ++ clearSeqBit ((raw.drop 4).take 4) := by
  obtain ⟨w0, h0, h⟩ := except_bind_eq_ok h
  obtain ⟨w1, h1, h⟩ := except_bind_eq_ok h
  cases h
  simp only [DropRequestInfo.serialize, List.flatMap_cons, List.flatMap_nil, List.append_nil,
    u32ToBeBytes_seqNumber, getU32_eq_ok_bytes h0, getU32_eq_ok_bytes h1, Nat.reduceMul,
    List.drop_zero]

/-- The address decoder read back the 16 address bytes: IPv4 only when their last
12 are zero, which is how `ip_to_bytes` pads it. -/
theorem ipToBytes_of_deserializeAddr {raw : List UInt8} {ip : IpAddr}
    (h : HandShakeInfo.deserializeAddr raw = .ok ip) : ipToBytes ip = (raw.drop 32).take 16 := by
  obtain ⟨trailing, htrail, h⟩ := except_bind_eq_ok h
  have hlen := (le_length_of_slice_eq_ok htrail).2
  rw [eq_of_slice_eq_ok htrail] at h
  split at h
  next hzero =>
    obtain ⟨s, hs, h⟩ := except_bind_eq_ok h
    obtain ⟨o, ho, h⟩ := except_bind_eq_ok h
    cases h
    have hpad : List.replicate 12 (0 : UInt8) = ((raw.drop 32).drop 4).take 12 := by
      refine (List.eq_replicate_iff.mpr ⟨by simp; omega, fun b hb => ?_⟩).symm
      simpa using List.all_eq_true.mp hzero b (by simpa [List.drop_drop] using hb)
    rw [ipToBytes, toList_of_tryIntoOctets_eq_ok ho, eq_of_slice_eq_ok hs, hpad,
      show 16 = 4 + 12 from rfl, List.take_add]
  next =>
    obtain ⟨s, hs, h⟩ := except_bind_eq_ok h
    obtain ⟨o, ho, h⟩ := except_bind_eq_ok h
    cases h
    rw [ipToBytes, toList_of_tryIntoOctets_eq_ok ho, eq_of_slice_eq_ok hs]

/-- A handshake decoded from `raw` writes back its 48 bytes with bit 31 of the
initial sequence number cleared, when the socket type conversion is one to one. -/
theorem HandShakeInfo.serialize_of_deserialize {repr : SocketTypeRepr} {raw : List UInt8}
    {hs : HandShakeInfo} (h : HandShakeInfo.deserialize repr raw = .ok hs)
    (hrepr : ∀ v t, repr.tryFrom v = .ok t → repr.asU32 t = v) :
    hs.serialize repr = raw.take 8 ++ clearSeqBit ((raw.drop 8).take 4) ++ (raw.drop 12).take 36 := by
  obtain ⟨addr, haddr, h⟩ := except_bind_eq_ok h
  obtain ⟨w0, h0, h⟩ := except_bind_eq_ok h
  obtain ⟨w1, h1, h⟩ := except_bind_eq_ok h
  obtain ⟨t, ht, h⟩ := except_bind_eq_ok h
  obtain ⟨w2, h2, h⟩ := except_bind_eq_ok h
  obtain ⟨w3, h3, h⟩ := except_bind_eq_ok h
  obtain ⟨w4, h4, h⟩ := except_bind_eq_ok h
  obtain ⟨ct, hct, h⟩ := except_bind_eq_ok h
  obtain ⟨w6, h6, h⟩ := except_bind_eq_ok h
  obtain ⟨w7, h7, h⟩ := except_bind_eq_ok h
  cases h
  have htype : repr.asU32 t = w1 := by
    cases hw : repr.tryFrom w1 <;> rw [hw] at ht <;> cases ht
    exact hrepr _ _ hw
  simp only [HandShakeInfo.serialize, List.flatMap_cons, List.flatMap_nil, List.append_nil,
    htype, u32ToBeBytes_seqNumber, getU32_eq_ok_bytes h0, getU32_eq_ok_bytes h1,
    getU32_eq_ok_bytes h2, getU32_eq_ok_bytes h3, getU32_eq_ok_bytes h4, getU32_eq_ok_bytes h6,
    getU32_eq_ok_bytes h7, i32At_eq_ok_bytes hct, ipToBytes_of_deserializeAddr haddr,
    Nat.reduceMul, List.drop_zero]
  rw [List.take_add raw 4 4, take_four_add raw 12 32, take_four_add raw 16 28,
    take_four_add raw 20 24, take_four_add raw 24 20, take_four_add raw 28 16]
  simp only [List.append_assoc]

/-- Re-encoding a control packet read from a frame writes back the frame's header
and, of its CIF, the bytes of the packet type's layout with bit 31 of each
sequence word cleared, when the socket type conversion is one to one: a NAK
loses only a trailing partial word, a type without a CIF everything after the
header. -/
theorem UdtPacket.reencode_frame {D : Type} {repr : SocketTypeRepr}
    {serializeData : D → List UInt8} {deserializeData : List UInt8 → Except Fault D}
    {raw : List UInt8} {p : UdtControlPacket}
    (h : UdtPacket.deserialize repr deserializeData raw = .ok (.control p))
    (hrepr : ∀ v t, repr.tryFrom v = .ok t → repr.asU32 t = v) :
    (UdtPacket.control p).serialize repr serializeData =
      raw.take 16 ++ p.packetType.reencodedCif (raw.drop 16) := by
  rw [UdtPacket.serialize_eq_header_append h]
  obtain ⟨-, -, -, -, hp⟩ := UdtPacket.deserialize_eq_ok_control h
  obtain ⟨-, -, -, -, -, hpt⟩ := UdtControlPacket.deserialize_eq_ok hp
  obtain ⟨-, -, -, hread⟩ := ControlPacketType.deserialize_eq_ok hpt
  congr 1
  generalize p.packetType = pt at hread ⊢
  cases pt with
  | handshake info => exact HandShakeInfo.serialize_of_deserialize hread hrepr
  | ack info => exact AckInfo.serialize_of_deserialize hread
  | nak info => exact NakInfo.serialize_of_deserialize hread
  | msgDropRequest info => exact DropRequestInfo.serialize_of_deserialize hread
  | _ => rfl

/-- The stray byte of `nakFrame` is the one byte its re-encoding drops. -/
theorem nakFrame_reencodes_to_words :
    UdtPacket.deserialize SocketTypeRepr.oneTwo (fun _ => (.ok () : Except Fault Unit)) nakFrame =
        .ok (.control nakPacket) ∧
      (∀ v t, SocketTypeRepr.oneTwo.tryFrom v = .ok t → SocketTypeRepr.oneTwo.asU32 t = v) ∧
      (UdtPacket.control nakPacket).serialize SocketTypeRepr.oneTwo (fun _ : Unit => []) =
        nakFrame.take 16 ++ nakPacket.packetType.reencodedCif (nakFrame.drop 16) := by
  have hrepr : ∀ v t, SocketTypeRepr.oneTwo.tryFrom v = .ok t → SocketTypeRepr.oneTwo.asU32 t = v := by
    intro v t h
    simp only [SocketTypeRepr.oneTwo] at h ⊢
    split_ifs at h with h1 h2 <;> cases h
    · exact h1.symm
    · exact h2.symm
  exact ⟨rfl, hrepr, @UdtPacket.reencode_frame _ _ _ (fun _ => .ok ()) nakFrame _ rfl hrepr⟩

end Cif

end TokioUdt
