import TokioUdt.Wire

/-!
# tokio-udt: the control-packet codec (`control_packet.rs`, `packet.rs`)

This module translates the control-packet types of `control_packet.rs`, their
`serialize` / `deserialize` functions, the `new_*` constructors and the two
sequence-number accessors, and the dispatch on the first bit in
`UdtPacket::deserialize` of `packet.rs`.

Three collaborators of these functions live in files that are not part of the
modelled sources, and are modelled from the spec:

* `SeqNumber`, `AckSeqNumber` and `MsgNumber` (`seq_number.rs`): 31-bit
  numbers, with `From<u32>` reducing modulo `2 ^ 31`;
* `SocketType` and its conversions `as u32` / `try_into()` (`socket.rs`):
  a parameter `SocketTypeRepr` whose fields state that the second undoes the
  first;
* `ip_to_bytes` (`common.rs`): the 16-byte address field.

`UdtDataPacket` (`data_packet.rs`) is a type parameter of `UdtPacket`, with
its codec passed as functions.
-/

namespace TokioUdt

/-- `SocketId` of `socket.rs`. -/
abbrev SocketId := UInt32

/-- Modelled from the spec: `SeqNumber` of `seq_number.rs`, a 31-bit sequence
number; `number()` is its field. -/
structure SeqNumber where
  number : UInt32
  number_lt : number.toNat < 2 ^ 31
deriving DecidableEq, Repr

/-- Modelled from the spec: `impl From<u32> for SeqNumber`, modulo `2 ^ 31`. -/
def SeqNumber.ofU32 (n : UInt32) : SeqNumber :=
  ⟨UInt32.ofNat (n.toNat % 2 ^ 31), by
    simp only [UInt32.toNat, UInt32.ofNat, BitVec.toNat_ofNat]
    omega⟩

@[simp] theorem SeqNumber.ofU32_number (s : SeqNumber) : SeqNumber.ofU32 s.number = s := by
  obtain ⟨n, h⟩ := s
  simp only [SeqNumber.ofU32, SeqNumber.mk.injEq]
  apply UInt32.toNat.inj
  simp only [UInt32.toNat, UInt32.ofNat, BitVec.toNat_ofNat] at h ⊢
  omega

/-- Modelled from the spec: `AckSeqNumber` of `seq_number.rs`, a 31-bit number in
a space of its own, with `number()` and `From<u32>` as for `SeqNumber`. -/
abbrev AckSeqNumber := SeqNumber

/-- Modelled from the spec: `MsgNumber` of `seq_number.rs`, likewise. -/
abbrev MsgNumber := SeqNumber

/-- Modelled from the spec: `MsgNumber::MAX_NUMBER`, `2 ^ 31 - 1`. -/
def MsgNumber.maxNumber : UInt32 := 0x7FFFFFFF

/-- Modelled from the spec: the socket types `{STREAM, DGRAM}` of `socket.rs`. -/
inductive SocketType
  | stream
  | datagram
deriving DecidableEq, Repr

/-- Modelled from the spec: `socket_type as u32` and `u32::try_into()` of
`socket.rs`; the second undoes the first and rejects a malformed value as
invalid data. -/
structure SocketTypeRepr where
  asU32 : SocketType → UInt32
  tryFrom : UInt32 → Except IoError SocketType
  tryFrom_asU32 : ∀ t, tryFrom (asU32 t) = .ok t
  tryFrom_error : ∀ n e, tryFrom n = .error e → e.kind = .invalidData

/-- A `SocketTypeRepr` numbering `STREAM` as 1 and `DGRAM` as 2. -/
def SocketTypeRepr.oneTwo : SocketTypeRepr where
  asU32
    | .stream => 1
    | .datagram => 2
  tryFrom n :=
    if n = 1 then .ok .stream
    else if n = 2 then .ok .datagram
    else .error ⟨.invalidData, "unknown socket type"⟩
  tryFrom_asU32 t := by cases t <;> rfl
  tryFrom_error n e h := by
    dsimp only at h
    split_ifs at h
    cases h
    rfl

/-- `std::net::IpAddr`. -/
inductive IpAddr
  | v4 (octets : Octets 4)
  | v6 (octets : Octets 16)
deriving DecidableEq, Repr

/-- Modelled from the spec: `ip_to_bytes` of `common.rs`, the 16-byte address
field (an IPv4 address in its first 4 bytes, zero-padded). -/
def ipToBytes : IpAddr → List UInt8
  | .v4 o => o.toList ++ List.replicate 12 0
  | .v6 o => o.toList

section Cif

/-- `HandShakeInfo`. -/
structure HandShakeInfo where
  udtVersion : UInt32
  socketType : SocketType
  initialSeqNumber : SeqNumber
  maxPacketSize : UInt32
  maxWindowSize : UInt32
  connectionType : I32
  socketId : SocketId
  synCookie : UInt32
  ipAddress : IpAddr
deriving DecidableEq, Repr

/-- `HandShakeInfo::serialize`. -/
def HandShakeInfo.serialize (repr : SocketTypeRepr) (hs : HandShakeInfo) : List UInt8 :=
  [hs.udtVersion, repr.asU32 hs.socketType, hs.initialSeqNumber.number,
      hs.maxPacketSize, hs.maxWindowSize].flatMap u32ToBeBytes ++
    i32ToBeBytes hs.connectionType ++ u32ToBeBytes hs.socketId ++
    u32ToBeBytes hs.synCookie ++ ipToBytes hs.ipAddress

/-- The address block of `HandShakeInfo::deserialize`: IPv4 when bytes
`36..48` are zero, IPv6 otherwise. -/
def HandShakeInfo.deserializeAddr (raw : List UInt8) : Except Fault IpAddr := do
  let trailing ← slice raw 36 48
  if trailing.all (· == 0) then
    let octets ← tryIntoOctets 4 (← slice raw 32 36)
    pure (.v4 octets)
  else
    let octets ← tryIntoOctets 16 (← slice raw 32 48)
    pure (.v6 octets)

/-- `HandShakeInfo::deserialize`. -/
def HandShakeInfo.deserialize (repr : SocketTypeRepr) (raw : List UInt8) :
    Except Fault HandShakeInfo := do
  let addr ← HandShakeInfo.deserializeAddr raw
  let udtVersion ← getU32 raw 0
  let socketType ← (repr.tryFrom (← getU32 raw 1)).mapError Fault.io
  let initialSeqNumber := SeqNumber.ofU32 (← getU32 raw 2)
  let maxPacketSize ← getU32 raw 3
  let maxWindowSize ← getU32 raw 4
  let connectionType ← i32At raw 20
  let socketId ← getU32 raw 6
  let synCookie ← getU32 raw 7
  pure { udtVersion, socketType, initialSeqNumber, maxPacketSize, maxWindowSize,
         connectionType, socketId, synCookie, ipAddress := addr }

/-- `AckOptionalInfo`. -/
structure AckOptionalInfo where
  rtt : UInt32
  rttVariance : UInt32
  availableBufSize : UInt32
  packRecvRate : UInt32
  linkCapacity : UInt32
deriving DecidableEq, Repr

/-- `AckInfo`. -/
structure AckInfo where
  nextSeqNumber : SeqNumber
  info : Option AckOptionalInfo
deriving DecidableEq, Repr

/-- `AckInfo::deserialize`: a light ACK when the CIF has at most 4 bytes. -/
def AckInfo.deserialize (raw : List UInt8) : Except Fault AckInfo := do
  let nextSeqNumber := SeqNumber.ofU32 (← getU32 raw 0)
  if raw.length ≤ 4 then
    return { nextSeqNumber, info := none }
  let info : AckOptionalInfo :=
    { rtt := ← getU32 raw 1, rttVariance := ← getU32 raw 2,
      availableBufSize := ← getU32 raw 3, packRecvRate := ← getU32 raw 4,
      linkCapacity := ← getU32 raw 5 }
  pure { nextSeqNumber, info := some info }

/-- `AckInfo::serialize`. -/
def AckInfo.serialize (ack : AckInfo) : List UInt8 :=
  match ack.info with
  | none => u32ToBeBytes ack.nextSeqNumber.number
  | some extra =>
      [ack.nextSeqNumber.number, extra.rtt, extra.rttVariance, extra.availableBufSize,
        extra.packRecvRate, extra.linkCapacity].flatMap u32ToBeBytes

/-- `NakInfo`. -/
structure NakInfo where
  lossInfo : List UInt32
deriving DecidableEq, Repr

/-- `raw.chunks(4)`: consecutive 4-byte chunks, the last one possibly shorter. -/
def chunks4 : List UInt8 → List (List UInt8)
  | [] => []
  | a :: b :: c :: d :: rest => [a, b, c, d] :: chunks4 rest
  | rest => [rest]

theorem chunks4_append {xs : List UInt8} (h : xs.length = 4) (ys : List UInt8) :
    chunks4 (xs ++ ys) = xs :: chunks4 ys := by
  match xs, h with
  | [_, _, _, _], _ => rfl

/-- The `filter_map` closure of `NakInfo::deserialize`. -/
def NakInfo.lossOfChunk (chunk : List UInt8) : Except Fault (Option UInt32) :=
  if chunk.length < 4 then pure none
  else do
    let octets ← tryIntoOctets 4 chunk
    pure (some (u32FromBeBytes octets))

theorem chunks4_length_le : ∀ (raw : List UInt8), ∀ c ∈ chunks4 raw, c.length ≤ 4
  | [] => by simp [chunks4]
  | [_] | [_, _] | [_, _, _] => by simp [chunks4]
  | _ :: _ :: _ :: _ :: rest => by
      simpa [chunks4] using chunks4_length_le rest

/-- On a chunk of `chunks(4)`, the closure returns the word of a full chunk. -/
theorem NakInfo.lossOfChunk_of_length_le {chunk : List UInt8} (h : chunk.length ≤ 4) :
    NakInfo.lossOfChunk chunk =
      .ok (if h4 : chunk.length = 4 then some (u32FromBeBytes ⟨chunk, h4⟩) else none) := by
  by_cases h4 : chunk.length = 4
  · simp [NakInfo.lossOfChunk, h4]
  · simp [NakInfo.lossOfChunk, h4, show chunk.length < 4 by omega]

/-- `NakInfo::deserialize`. -/
def NakInfo.deserialize (raw : List UInt8) : Except Fault NakInfo := do
  let losses ← (chunks4 raw).filterMapM NakInfo.lossOfChunk
  pure { lossInfo := losses }

/-- `NakInfo::deserialize` never fails: it keeps the words of the full chunks. -/
theorem NakInfo.deserialize_eq (raw : List UInt8) :
    NakInfo.deserialize raw = .ok ⟨(chunks4 raw).filterMap fun c =>
      if h4 : c.length = 4 then some (u32FromBeBytes ⟨c, h4⟩) else none⟩ := by
  rw [NakInfo.deserialize, filterMapM_eq_ok fun c hc =>
    NakInfo.lossOfChunk_of_length_le (chunks4_length_le raw c hc)]
  rfl

/-- `NakInfo::serialize`. -/
def NakInfo.serialize (nak : NakInfo) : List UInt8 :=
  nak.lossInfo.flatMap u32ToBeBytes

/-- `DropRequestInfo`. -/
structure DropRequestInfo where
  firstSeqNumber : SeqNumber
  lastSeqNumber : SeqNumber
deriving DecidableEq, Repr

/-- `DropRequestInfo::deserialize`. -/
def DropRequestInfo.deserialize (raw : List UInt8) : Except Fault DropRequestInfo := do
  let firstSeqNumber := SeqNumber.ofU32 (← getU32 raw 0)
  let lastSeqNumber := SeqNumber.ofU32 (← getU32 raw 1)
  pure { firstSeqNumber, lastSeqNumber }

/-- `DropRequestInfo::serialize`. -/
def DropRequestInfo.serialize (drop : DropRequestInfo) : List UInt8 :=
  [drop.firstSeqNumber.number, drop.lastSeqNumber.number].flatMap u32ToBeBytes

end Cif

section Header

/-- `ControlPacketType`. -/
inductive ControlPacketType
  | handshake (info : HandShakeInfo)
  | keepAlive
  | ack (info : AckInfo)
  | nak (info : NakInfo)
  | shutdown
  | ack2
  | msgDropRequest (info : DropRequestInfo)
  | userDefined
deriving DecidableEq, Repr

/-- `ControlPacketType::type_as_u15`. -/
def ControlPacketType.typeAsU15 : ControlPacketType → UInt16
  | .handshake _ => 0x0000
  | .keepAlive => 0x0001
  | .ack _ => 0x0002
  | .nak _ => 0x0003
  | .shutdown => 0x0005
  | .ack2 => 0x0006
  | .msgDropRequest _ => 0x0007
  | .userDefined => 0x7fff

/-- `ControlPacketType::control_info_field`. -/
def ControlPacketType.controlInfoField (repr : SocketTypeRepr) :
    ControlPacketType → List UInt8
  | .handshake info => info.serialize repr
  | .ack info => info.serialize
  | .nak info => info.serialize
  | .msgDropRequest info => info.serialize
  | _ => []

/-- `ControlPacketType::deserialize`, on the whole packet. -/
def ControlPacketType.deserialize (repr : SocketTypeRepr) (rawControlPacket : List UInt8) :
    Except Fault ControlPacketType := do
  let typeId := (← u16At rawControlPacket 0) &&& 0x7FFF
  match typeId with
  | 0x0000 => return .handshake (← HandShakeInfo.deserialize repr (← sliceFrom rawControlPacket 16))
  | 0x0001 => return .keepAlive
  | 0x0002 => return .ack (← AckInfo.deserialize (← sliceFrom rawControlPacket 16))
  | 0x0003 => return .nak (← NakInfo.deserialize (← sliceFrom rawControlPacket 16))
  | 0x0005 => return .shutdown
  | 0x0006 => return .ack2
  | 0x0007 =>
      return .msgDropRequest (← DropRequestInfo.deserialize (← sliceFrom rawControlPacket 16))
  | 0x7fff => return .userDefined
  | _ => invalidData "unknown control packet type"

/-- `UdtControlPacket`. -/
structure UdtControlPacket where
  packetType : ControlPacketType
  reserved : UInt16
  additionalInfo : UInt32
  timestamp : UInt32
  destSocketId : SocketId
deriving DecidableEq, Repr

/-- `UdtControlPacket::serialize`. -/
def UdtControlPacket.serialize (repr : SocketTypeRepr) (p : UdtControlPacket) : List UInt8 :=
  u16ToBeBytes (0x8000 + p.packetType.typeAsU15) ++ u16ToBeBytes p.reserved ++
    u32ToBeBytes p.additionalInfo ++ u32ToBeBytes p.timestamp ++
    u32ToBeBytes p.destSocketId ++ p.packetType.controlInfoField repr

/-- `UdtControlPacket::deserialize`. -/
def UdtControlPacket.deserialize (repr : SocketTypeRepr) (raw : List UInt8) :
    Except Fault UdtControlPacket :=
  if raw.length < 16 then invalidData "control packet header is too short"
  else do
    let reserved ← u16At raw 2
    let additionalInfo ← u32At raw 4
    let timestamp ← u32At raw 8
    let destSocketId ← u32At raw 12
    let packetType ← ControlPacketType.deserialize repr raw
    pure { packetType, reserved, additionalInfo, timestamp, destSocketId }

/-- The packet the `UdtControlPacket::new_*` constructors build: `reserved`,
`additional_info` and `timestamp` zero. -/
def UdtControlPacket.withZeroHeader (packetType : ControlPacketType) (destSocketId : SocketId) :
    UdtControlPacket :=
  ⟨packetType, 0, 0, 0, destSocketId⟩

/-- `UdtControlPacket::new_handshake`. -/
def UdtControlPacket.newHandshake (hs : HandShakeInfo) (destSocketId : SocketId) :
    UdtControlPacket :=
  withZeroHeader (.handshake hs) destSocketId

/-- `UdtControlPacket::new_nak`. -/
def UdtControlPacket.newNak (lossList : List UInt32) (destSocketId : SocketId) :
    UdtControlPacket :=
  withZeroHeader (.nak ⟨lossList⟩) destSocketId

/-- `UdtControlPacket::new_keep_alive`. -/
def UdtControlPacket.newKeepAlive (destSocketId : SocketId) : UdtControlPacket :=
  withZeroHeader .keepAlive destSocketId

/-- `UdtControlPacket::new_shutdown`. -/
def UdtControlPacket.newShutdown (destSocketId : SocketId) : UdtControlPacket :=
  withZeroHeader .shutdown destSocketId

/-- `UdtControlPacket::new_ack2`: the ACK number in `additional_info`. -/
def UdtControlPacket.newAck2 (seq : AckSeqNumber) (destSocketId : SocketId) : UdtControlPacket :=
  ⟨.ack2, 0, seq.number, 0, destSocketId⟩

/-- `UdtControlPacket::new_drop`: the message number in `additional_info`. -/
def UdtControlPacket.newDrop (msgId : MsgNumber) (first last : SeqNumber)
    (destSocketId : SocketId) : UdtControlPacket :=
  ⟨.msgDropRequest ⟨first, last⟩, 0, msgId.number, 0, destSocketId⟩

/-- `UdtControlPacket::new_ack`: the ACK number in `additional_info`. -/
def UdtControlPacket.newAck (ackNumber : AckSeqNumber) (nextSeqNumber : SeqNumber)
    (destSocketId : SocketId) (info : Option AckOptionalInfo) : UdtControlPacket :=
  ⟨.ack ⟨nextSeqNumber, info⟩, 0, ackNumber.number, 0, destSocketId⟩

/-- `UdtControlPacket::ack_seq_number`. -/
def UdtControlPacket.ackSeqNumber (p : UdtControlPacket) : Option AckSeqNumber :=
  match p.packetType with
  | .ack _ | .ack2 => some (SeqNumber.ofU32 p.additionalInfo)
  | _ => none

/-- `UdtControlPacket::msg_seq_number`. -/
def UdtControlPacket.msgSeqNumber (p : UdtControlPacket) : Option MsgNumber :=
  match p.packetType with
  | .msgDropRequest _ => some (SeqNumber.ofU32 (p.additionalInfo &&& MsgNumber.maxNumber))
  | _ => none

end Header

section Dispatch

variable {D : Type}

/-- `UdtPacket`, over the data-packet type `D` of `data_packet.rs`. -/
inductive UdtPacket (D : Type)
  | control (p : UdtControlPacket)
  | data (p : D)
deriving DecidableEq, Repr

/-- `UdtPacket::serialize`, with `serializeData` for `UdtDataPacket::serialize`. -/
def UdtPacket.serialize (repr : SocketTypeRepr) (serializeData : D → List UInt8) :
    UdtPacket D → List UInt8
  | .control p => p.serialize repr
  | .data p => serializeData p

/-- `UdtPacket::deserialize`, with `deserializeData` for `UdtDataPacket::deserialize`;
the empty check comes before `raw[0]`, which therefore never panics. -/
def UdtPacket.deserialize (repr : SocketTypeRepr)
    (deserializeData : List UInt8 → Except Fault D) (raw : List UInt8) :
    Except Fault (UdtPacket D) :=
  match raw with
  | [] => invalidData "cannot deserialize empty packet"
  | first :: _ =>
      match (first >>> 7) != 0 with
      | false => return .data (← deserializeData raw)
      | true => return .control (← UdtControlPacket.deserialize repr raw)

/-- A frame whose first bit is set takes the control branch. -/
theorem UdtPacket.deserialize_of_msb (repr : SocketTypeRepr)
    (deserializeData : List UInt8 → Except Fault D) {first : UInt8} (rest : List UInt8)
    (h : ((first >>> 7) != 0) = true) :
    UdtPacket.deserialize repr deserializeData (first :: rest) =
      (do return .control (← UdtControlPacket.deserialize repr (first :: rest))) := by
  simp only [UdtPacket.deserialize, h]

end Dispatch

end TokioUdt
