import TokioUdt.Packet

/-!
# tokio-udt: when the control-packet decoder panics

`UdtControlPacket::deserialize` checks that the 16-byte header is there, but
the CIF decoders it calls slice their input without checking its length.
`HandShakeInfo::deserialize` reads `raw[36..48]`, `AckInfo::deserialize` reads
`raw[0..4]` and, when more than 4 bytes are there, `raw[4..24]`, and
`DropRequestInfo::deserialize` reads `raw[0..8]`.

**Results.**
* `PanicsExactlyWhen r P`: `r` panics when `P` holds, and otherwise is `Ok` or
  `Err` of kind `InvalidData`; one such lemma per decoder;
* `UdtPacket.deserialize_control_frame`: on every frame whose first bit is set,
  the decoder panics exactly on a full header announcing a handshake, an ACK or
  a drop request followed by a CIF shorter than that type's layout
  (`TruncatedCif`), and every error it returns is `InvalidData`;
* `handshake_header_only_panics`: the 16-byte handshake header with no CIF.
-/

namespace TokioUdt

section Outcomes

variable {α β : Type}

/-- The outcomes the spec allows a decoder: `Ok`, or `Err` of kind `InvalidData`. -/
def OkOrInvalidData : Except Fault α → Prop
  | .ok _ => True
  | .error (.io e) => e.kind = .invalidData
  | .error .panic => False

/-- `r` panics when `P` holds, and is `Ok` or `Err(InvalidData)` otherwise. -/
def PanicsExactlyWhen (r : Except Fault α) (P : Prop) : Prop :=
  (P → r = .error .panic) ∧ (¬ P → OkOrInvalidData r)

variable {r : Except Fault α} {P Q : Prop}

theorem PanicsExactlyWhen.eq_panic_iff (h : PanicsExactlyWhen r P) :
    r = .error .panic ↔ P := by
  refine ⟨fun hr => ?_, h.1⟩
  by_contra hP
  have := h.2 hP
  rw [hr] at this
  exact this

theorem PanicsExactlyWhen.io_kind (h : PanicsExactlyWhen r P) {e : IoError}
    (hr : r = .error (.io e)) : e.kind = .invalidData := by
  by_cases hP : P
  · rw [h.1 hP] at hr
    cases hr
  · have := h.2 hP
    rwa [hr] at this

theorem PanicsExactlyWhen.of_iff (h : PanicsExactlyWhen r P) (hPQ : P ↔ Q) :
    PanicsExactlyWhen r Q := by
  rwa [← hPQ]

theorem PanicsExactlyWhen.map (h : PanicsExactlyWhen r P) (g : α → β) :
    PanicsExactlyWhen (do return g (← r)) P := by
  refine ⟨fun hP => by rw [h.1 hP]; rfl, fun hP => ?_⟩
  have := h.2 hP
  cases r with
  | ok a =>
      trivial
  | error f =>
      cases f <;> exact this

/-- A chain whose rest panics after every value of a first step that cannot
return an `io::Error`. -/
theorem bind_eq_panic {x : Except Fault α} {f : α → Except Fault β}
    (hx : ∀ e, x ≠ .error (.io e)) (hf : ∀ a, f a = .error .panic) :
    x >>= f = .error .panic := by
  cases x with
  | ok a =>
      exact hf a
  | error e =>
      cases e with
      | io e =>
          exact absurd rfl (hx e)
      | panic =>
          rfl

theorem panicsExactlyWhen_ok (a : α) : PanicsExactlyWhen (.ok a : Except Fault α) False :=
  ⟨False.elim, fun _ => trivial⟩

theorem panicsExactlyWhen_invalidData (message : String) :
    PanicsExactlyWhen (invalidData message : Except Fault α) False :=
  ⟨False.elim, fun _ => rfl⟩

end Outcomes

section Cif

theorem getU32_eq_ok (raw : List UInt8) (idx : Nat) (h : idx * 4 + 4 ≤ raw.length) :
    ∃ v, getU32 raw idx = .ok v := by
  rw [getU32_eq_u32At]
  exact beAt_eq_ok_of_le h

theorem getU32_eq_panic (raw : List UInt8) (idx : Nat) (h : raw.length < idx * 4 + 4) :
    getU32 raw idx = .error .panic := by
  rw [getU32_eq_u32At]
  exact beAt_eq_panic h

/-- `get_u32` returns a word or panics. -/
theorem getU32_ne_io (raw : List UInt8) (idx : Nat) (e : IoError) :
    getU32 raw idx ≠ .error (.io e) := by
  by_cases h : idx * 4 + 4 ≤ raw.length
  · obtain ⟨v, hv⟩ := getU32_eq_ok raw idx h
    rw [hv]
    exact Except.noConfusion
  · rw [getU32_eq_panic raw idx (by omega)]
    intro h
    cases h

theorem HandShakeInfo.deserializeAddr_eq_ok {raw : List UInt8} (h : 48 ≤ raw.length) :
    ∃ ip, HandShakeInfo.deserializeAddr raw = .ok ip := by
  obtain ⟨t, ht, -⟩ := slice_length_of_le (show 36 ≤ 48 by omega) h
  obtain ⟨s4, hs4, hl4⟩ := slice_length_of_le (show 32 ≤ 36 by omega) (show 36 ≤ raw.length by omega)
  obtain ⟨s16, hs16, hl16⟩ := slice_length_of_le (show 32 ≤ 48 by omega) h
  simp only [HandShakeInfo.deserializeAddr, ht, hs4, hs16, except_ok_bind,
    tryIntoOctets_of_length hl4, tryIntoOctets_of_length hl16, except_pure]
  split
  · exact ⟨_, rfl⟩
  · exact ⟨_, rfl⟩

theorem HandShakeInfo.deserialize_panicsExactlyWhen (repr : SocketTypeRepr) (raw : List UInt8) :
    PanicsExactlyWhen (HandShakeInfo.deserialize repr raw) (raw.length < 48) := by
  refine ⟨fun h => ?_, fun h => ?_⟩
  · simp only [HandShakeInfo.deserialize, HandShakeInfo.deserializeAddr,
      slice_eq_panic (show ¬ (36 ≤ 48 ∧ 48 ≤ raw.length) by omega), except_error_bind]
  · obtain ⟨ip, hip⟩ := HandShakeInfo.deserializeAddr_eq_ok (by omega : 48 ≤ raw.length)
    simp (disch := omega) only [HandShakeInfo.deserialize, hip, getU32_eq_u32At, u32At, i32At,
      beAt_eq_ok, except_ok_bind, except_pure]
    cases hst : repr.tryFrom _ with
    | ok st =>
        trivial
    | error e =>
        exact repr.tryFrom_error _ e hst

theorem AckInfo.deserialize_panicsExactlyWhen (raw : List UInt8) :
    PanicsExactlyWhen (AckInfo.deserialize raw)
      (raw.length < 4 ∨ 4 < raw.length ∧ raw.length < 24) := by
  by_cases h4 : raw.length < 4
  · refine ⟨fun _ => ?_, fun hP => absurd (Or.inl h4) hP⟩
    simp only [AckInfo.deserialize, getU32_eq_panic raw 0 (by omega : raw.length < 0 * 4 + 4),
      except_error_bind]
  obtain ⟨n, hn⟩ := getU32_eq_ok raw 0 (by omega)
  by_cases hlight : raw.length ≤ 4
  · refine ⟨fun hP => by omega, fun _ => ?_⟩
    simp only [AckInfo.deserialize, hn, except_ok_bind, hlight, if_true]
    trivial
  by_cases h24 : raw.length < 24
  · refine ⟨fun _ => ?_, fun hP => absurd (Or.inr ⟨by omega, h24⟩) hP⟩
    simp only [AckInfo.deserialize, hn, except_ok_bind, hlight, if_false]
    iterate 4 (apply bind_eq_panic (getU32_ne_io _ _); intro _)
    simp only [getU32_eq_panic raw 5 (by omega : raw.length < 5 * 4 + 4), except_error_bind]
  · refine ⟨fun hP => by omega, fun _ => ?_⟩
    simp (disch := omega) only [AckInfo.deserialize, hn, hlight, if_false, getU32_eq_u32At,
      u32At, beAt_eq_ok, except_ok_bind]
    trivial

theorem DropRequestInfo.deserialize_panicsExactlyWhen (raw : List UInt8) :
    PanicsExactlyWhen (DropRequestInfo.deserialize raw) (raw.length < 8) := by
  refine ⟨fun h => ?_, fun h => ?_⟩
  · exact bind_eq_panic (getU32_ne_io _ _) fun _ => by
      simp only [getU32_eq_panic raw 1 (by omega : raw.length < 1 * 4 + 4), except_error_bind]
  · simp (disch := omega) only [DropRequestInfo.deserialize, getU32_eq_u32At, u32At, beAt_eq_ok,
      except_ok_bind]
    trivial

theorem NakInfo.deserialize_panicsExactlyWhen (raw : List UInt8) :
    PanicsExactlyWhen (NakInfo.deserialize raw) False := by
  rw [NakInfo.deserialize_eq]
  exact panicsExactlyWhen_ok _

end Cif

section Frame

/-- The frames the decoder panics on: a header announcing a handshake, an ACK or
a drop request, followed by a CIF of `cifLength` bytes, shorter than that
type's layout. -/
def TruncatedCif (typeId : UInt16) (cifLength : Nat) : Prop :=
  typeId = 0x0000 ∧ cifLength < 48 ∨
    typeId = 0x0002 ∧ (cifLength < 4 ∨ 4 < cifLength ∧ cifLength < 24) ∨
    typeId = 0x0007 ∧ cifLength < 8

theorem ControlPacketType.deserialize_panicsExactlyWhen (repr : SocketTypeRepr)
    (raw : List UInt8) (h : 16 ≤ raw.length) {w : UInt16} (hw : u16At raw 0 = .ok w) :
    PanicsExactlyWhen (ControlPacketType.deserialize repr raw)
      (TruncatedCif (w &&& 0x7FFF) (raw.length - 16)) := by
  have hcif : sliceFrom raw 16 = .ok (raw.drop 16) := by simp [sliceFrom, h]
  have hlen : (raw.drop 16).length = raw.length - 16 := List.length_drop _ _
  rw [ControlPacketType.deserialize, hw, except_ok_bind]
  generalize w &&& 0x7FFF = t
  dsimp only
  split <;> try simp only [hcif, except_ok_bind]
  · exact ((HandShakeInfo.deserialize_panicsExactlyWhen repr _).map _).of_iff
      (by simp [TruncatedCif, hlen])
  · exact (panicsExactlyWhen_ok _).of_iff (by simp [TruncatedCif])
  · exact ((AckInfo.deserialize_panicsExactlyWhen _).map _).of_iff
      (by simp [TruncatedCif, hlen])
  · exact ((NakInfo.deserialize_panicsExactlyWhen _).map _).of_iff (by simp [TruncatedCif])
  · exact (panicsExactlyWhen_ok _).of_iff (by simp [TruncatedCif])
  · exact (panicsExactlyWhen_ok _).of_iff (by simp [TruncatedCif])
  · exact ((DropRequestInfo.deserialize_panicsExactlyWhen _).map _).of_iff
      (by simp [TruncatedCif, hlen])
  · exact (panicsExactlyWhen_ok _).of_iff (by simp [TruncatedCif])
  · exact (panicsExactlyWhen_invalidData _).of_iff (by simp_all [TruncatedCif])

theorem UdtControlPacket.deserialize_panicsExactlyWhen (repr : SocketTypeRepr)
    (raw : List UInt8) :
    PanicsExactlyWhen (UdtControlPacket.deserialize repr raw)
      (16 ≤ raw.length ∧ ∃ w, u16At raw 0 = .ok w ∧
        TruncatedCif (w &&& 0x7FFF) (raw.length - 16)) := by
  by_cases h : raw.length < 16
  · rw [UdtControlPacket.deserialize, if_pos h]
    exact (panicsExactlyWhen_invalidData _).of_iff ⟨False.elim, fun hq => absurd hq.1 (by omega)⟩
  obtain ⟨w, hw⟩ := u16At_eq_ok raw 0 (by omega)
  obtain ⟨r, hr⟩ := u16At_eq_ok raw 2 (by omega)
  obtain ⟨i, hi⟩ := u32At_eq_ok raw 4 (by omega)
  obtain ⟨ts, hts⟩ := u32At_eq_ok raw 8 (by omega)
  obtain ⟨d, hd⟩ := u32At_eq_ok raw 12 (by omega)
  rw [UdtControlPacket.deserialize, if_neg h]
  simp only [hr, hi, hts, hd, except_ok_bind]
  refine ((ControlPacketType.deserialize_panicsExactlyWhen repr raw (by omega) hw).map _).of_iff
    ⟨fun ht => ⟨by omega, w, hw, ht⟩, ?_⟩
  rintro ⟨-, w', hw', ht⟩
  obtain rfl : w' = w := Except.ok.inj (hw'.symm.trans hw)
  exact ht

/-- On a frame whose first bit is set, `UdtPacket::deserialize` panics exactly on a
full header announcing a handshake, an ACK or a drop request whose CIF is
shorter than that type's layout; every error it returns is `InvalidData`. -/
theorem UdtPacket.deserialize_control_frame {D : Type} (repr : SocketTypeRepr)
    (deserializeData : List UInt8 → Except Fault D) {first : UInt8} (rest : List UInt8)
    (hbit : ((first >>> 7) != 0) = true) :
    (UdtPacket.deserialize repr deserializeData (first :: rest) = .error .panic ↔
        16 ≤ (first :: rest).length ∧ ∃ w, u16At (first :: rest) 0 = .ok w ∧
          TruncatedCif (w &&& 0x7FFF) ((first :: rest).length - 16)) ∧
      ∀ e, UdtPacket.deserialize repr deserializeData (first :: rest) = .error (.io e) →
        e.kind = .invalidData := by
  have hp := (UdtControlPacket.deserialize_panicsExactlyWhen repr (first :: rest)).map
    (@UdtPacket.control D)
  rw [UdtPacket.deserialize_of_msb repr deserializeData rest hbit]
  exact ⟨hp.eq_panic_iff, fun e he => hp.io_kind he⟩

/-- A handshake header, type id `0x8000` after the control bit, and no CIF. -/
def handshakeHeaderOnly : List UInt8 :=
  0x80 :: List.replicate 15 0

/-- The handshake header with no CIF is a full header announcing a handshake
whose CIF is shorter than 48 bytes: a frame the decoder panics on. -/
theorem deserialize_control_frame_header_only :
    (((0x80 : UInt8) >>> 7) != 0) = true ∧
      16 ≤ handshakeHeaderOnly.length ∧ u16At handshakeHeaderOnly 0 = .ok 0x8000 ∧
      TruncatedCif (0x8000 &&& 0x7FFF) (handshakeHeaderOnly.length - 16) ∧
      (UdtPacket.deserialize SocketTypeRepr.oneTwo (fun _ => (.ok () : Except Fault Unit))
          handshakeHeaderOnly = .error .panic ↔
        16 ≤ handshakeHeaderOnly.length ∧ ∃ w, u16At handshakeHeaderOnly 0 = .ok w ∧
          TruncatedCif (w &&& 0x7FFF) (handshakeHeaderOnly.length - 16)) ∧
      ∀ e, UdtPacket.deserialize SocketTypeRepr.oneTwo (fun _ => (.ok () : Except Fault Unit))
          handshakeHeaderOnly = .error (.io e) → e.kind = .invalidData :=
  ⟨by decide, by decide, rfl, .inl ⟨by decide, by decide⟩,
    UdtPacket.deserialize_control_frame _ _ (List.replicate 15 0) (by decide)⟩

end Frame

/-- A 16-byte handshake header with no CIF makes the decoder panic. -/
theorem handshake_header_only_panics {D : Type} (repr : SocketTypeRepr)
    (deserializeData : List UInt8 → Except Fault D) :
    UdtPacket.deserialize repr deserializeData (0x80 :: List.replicate 15 0) = .error .panic := by
  rfl

end TokioUdt
