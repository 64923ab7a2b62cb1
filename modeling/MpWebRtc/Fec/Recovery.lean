import MpWebRtc.Fec.Encoding

/-!
# Recovering a packet

A FEC packet of which one protected packet is missing gives that packet back: what it holds, with
the other packets xored into it once more, is the parity of the one that is missing. The sequence
number and the SSRC are not xored, they are known from the mask and from the header, and the version
is always two.
-/

namespace MpWebRtc

open Math Math.Wire Math.Parity Math.Memory

/-- Why a recovery has no result that the program defines. -/
inductive FecFault
  | uninitialized
  | outOfBounds
  deriving DecidableEq

/-- `ProtectedPacket`, without its SSRC. -/
structure ProtectedPacket where
  seqNum : UInt16
  pkt : Option (List UInt8) := none

/-- `StartPacketRecovery`; none where it returns false. -/
def startPacketRecovery (header : FecHeader) : Option (List UInt8) :=
  if header.data.length < header.fecHeaderSize + header.protectionLength then none
  else if min (kIpPacketSize - kRtpHeaderSize) (kIpPacketSize - header.fecHeaderSize) <
      header.protectionLength then none
  else some (header.data.take kRtpHeaderSize ++
    (header.data.drop header.fecHeaderSize).take header.protectionLength)

/-- The loop of `RecoverPacket` over the protected packets, with the number of the missing packet
once it is found. A packet that is longer than what is being recovered would be xored with bytes that
were never written. -/
def xorProtected : (protectedPackets : List ProtectedPacket) → (seqNum : Option UInt16) →
    (data : List UInt8) → Except FecFault (Option UInt16 × List UInt8)
  | [], seqNum, data => .ok (seqNum, data)
  | protectedPacket :: rest, seqNum, data =>
      match protectedPacket.pkt with
      | none => xorProtected rest (some protectedPacket.seqNum) data
      | some pkt =>
          if pkt.length < kRtpHeaderSize then .error .outOfBounds
          else if data.length < kRtpHeaderSize + (mediaPayload pkt).length then .error .uninitialized
          else xorProtected rest seqNum (xorPayloads pkt kRtpHeaderSize (xorHeaders pkt data))

/-- `FinishPacketRecovery`; none where it returns false. -/
def finishPacketRecovery (protectedSsrc : UInt32) (seqNum : UInt16) (data : List UInt8) :
    Except FecFault (Option (List UInt8)) :=
  let data := patched 0 [(padded data 0 ||| 0x80) &&& 0xbf] data
  let newSize := readBigEndian ((data.drop 2).take 2) + kRtpHeaderSize
  if kIpPacketSize - kRtpHeaderSize < newSize then .ok none
  else if data.length < newSize then .error .uninitialized
  else .ok (some (patched 8 (writeBigEndian 4 protectedSsrc.toNat)
    (patched 2 (writeBigEndian 2 seqNum.toNat) (data.take newSize))))

/-- `RecoverPacket`: the number and the bytes of the packet, or none where it returns false. -/
def recoverPacket (header : FecHeader) (protectedPackets : List ProtectedPacket) :
    Except FecFault (Option (UInt16 × List UInt8)) :=
  match startPacketRecovery header with
  | none => .ok none
  | some data =>
      match xorProtected protectedPackets none data with
      | .error fault => .error fault
      | .ok (none, _) => .error .uninitialized
      | .ok (some seqNum, data) =>
          match finishPacketRecovery header.protectedSsrc seqNum data with
          | .error fault => .error fault
          | .ok none => .ok none
          | .ok (some packet) => .ok (some (seqNum, packet))

/-- A media packet as a sender makes them: of version two, of the SSRC, and not too long. -/
structure IsMedia (mediaSsrc : UInt32) (packet : List UInt8) : Prop where
  whole : kRtpHeaderSize ≤ packet.length
  short : packet.length ≤ kIpPacketSize - kRtpHeaderSize
  version : padded packet 0 &&& 0xc0 = 0x80
  ssrc : parseSsrc packet = mediaSsrc

section Xor

variable {data : List UInt8} (protectedPackets : List ProtectedPacket)

/-- The packets that the protected packets point to. -/
def pointedTo : List (List UInt8) :=
  protectedPackets.filterMap ProtectedPacket.pkt

/-- The number of the last packet that is missing. -/
def lastMissing (seqNum : Option UInt16) : Option UInt16 :=
  protectedPackets.foldl (fun seqNum protectedPacket =>
    if protectedPacket.pkt = none then some protectedPacket.seqNum else seqNum) seqNum

/-- All packets that are there are taken out. -/
theorem xorProtected_spec (seqNum : Option UInt16) (data : List UInt8)
    (fit : ∀ pkt ∈ pointedTo protectedPackets, kRtpHeaderSize ≤ pkt.length ∧
      kRtpHeaderSize + (mediaPayload pkt).length ≤ data.length) :
    ∃ after, xorProtected protectedPackets seqNum data =
        .ok (lastMissing protectedPackets seqNum, after) ∧ after.length = data.length ∧
      ∀ i, padded after i = padded data i ^^^
        (parity ((pointedTo protectedPackets).map recoveryFields) i ^^^
          (if kRtpHeaderSize ≤ i then
            parity ((pointedTo protectedPackets).map mediaPayload)
    (i - kRtpHeaderSize) else 0)) := by
  induction protectedPackets generalizing seqNum data with
  | nil =>
      refine ⟨data, rfl, rfl, fun i => ?_⟩
      rw [show pointedTo [] = [] from rfl, List.map_nil, List.map_nil, parity_nil, parity_nil,
        ite_self, UInt8.xor_zero, UInt8.xor_zero]
  | cons protectedPacket rest ih =>
      cases known : protectedPacket.pkt with
      | none =>
          have same : pointedTo (protectedPacket :: rest) = pointedTo rest := by
            unfold pointedTo
            rw [List.filterMap_cons_none known]
          rw [same] at fit ⊢
          obtain ⟨after, done, spec⟩ := ih (some protectedPacket.seqNum) data fit
          refine ⟨after, ?_, spec⟩
          unfold xorProtected lastMissing
          rw [known, List.foldl_cons, if_pos known]
          exact done
      | some pkt =>
          have split : pointedTo (protectedPacket :: rest) = pkt :: pointedTo rest := by
            unfold pointedTo
            rw [List.filterMap_cons_some known]
          rw [split] at fit ⊢
          obtain ⟨⟨whole, room⟩, others⟩ := List.forall_mem_cons.mp fit
          have eight := length_recoveryFields whole
          have wide : 0 + (recoveryFields pkt).length ≤ data.length := by
            have : kRtpHeaderSize = 12 := rfl
            omega
          have headed : (xorHeaders pkt data).length = data.length := length_xorAt wide
          have xored : (xorPayloads pkt kRtpHeaderSize (xorHeaders pkt data)).length = data.length :=
            (length_xorAt (by rwa [headed])).trans headed
          obtain ⟨after, done, length, bytes⟩ := ih seqNum
            (xorPayloads pkt kRtpHeaderSize (xorHeaders pkt data)) (by rwa [xored])
          refine ⟨after, ?_, length.trans xored, fun i => ?_⟩
          · unfold xorProtected lastMissing
            rw [known, List.foldl_cons, if_neg (by rw [known]; exact Option.some_ne_none _)]
            dsimp only
            rw [if_neg (Nat.not_lt.mpr whole), if_neg (Nat.not_lt.mpr room)]
            exact done
          · have first : padded (xorPayloads pkt kRtpHeaderSize (xorHeaders pkt data)) i =
                (padded data i ^^^ padded (recoveryFields pkt) i) ^^^
                  (if kRtpHeaderSize ≤ i then padded (mediaPayload pkt) (i - kRtpHeaderSize)
                    else 0) := by
              unfold xorPayloads xorHeaders
              rw [padded_xorAt, padded_xorAt wide, if_pos (Nat.zero_le i), Nat.sub_zero]
              rwa [length_xorAt wide]
            rw [bytes, first, List.map_cons, List.map_cons, parity_cons, parity_cons]
            by_cases behind : kRtpHeaderSize ≤ i
            · rw [if_pos behind, if_pos behind, if_pos behind]
              ac_rfl
            · rw [if_neg behind, if_neg behind, if_neg behind, UInt8.xor_zero, UInt8.xor_zero,
                UInt8.xor_zero, UInt8.xor_assoc]

end Xor

section Finish

variable {mediaSsrc : UInt32} {lost data : List UInt8}

theorem and_xor (first second mask : UInt8) :
    (first ^^^ second) &&& mask = (first &&& mask) ^^^ (second &&& mask) := by
  apply UInt8.toBitVec_inj.mp
  ext i inside
  simp [Bool.and_xor_distrib_right]

theorem version_two (recovered sent : UInt8) (version : sent &&& 0xc0 = 0x80)
    (low : recovered &&& 0x3f = sent &&& 0x3f) : (recovered ||| 0x80) &&& 0xbf = sent := by
  have first : (recovered ||| 0x80) &&& 0xbf = 0x80 ||| (recovered &&& 0x3f) :=
    forall_byte (fun byte => (byte ||| 0x80) &&& 0xbf = 0x80 ||| (byte &&& 0x3f))
      (by decide +kernel) recovered
  have second : 0x80 ||| (sent &&& 0x3f) = sent :=
    forall_byte (fun byte => byte &&& 0xc0 = 0x80 → 0x80 ||| (byte &&& 0x3f) = byte)
      (by decide +kernel) sent version
  rw [first, low, second]

/-- The byte that a number is modulo 256. -/
theorem ofNat_eq_byte {value : Nat} {byte : UInt8} (same : value % 2 ^ 8 = byte.toNat) :
    UInt8.ofNat value = byte := by
  apply UInt8.toNat_inj.mp
  rw [UInt8.toNat_ofNat', same]

theorem writeBigEndian_ofNat_half (first second : UInt8) :
    writeBigEndian 2 (UInt16.ofNat (readBigEndian [first, second])).toNat = [first, second] := by
  have one := first.toNat_lt
  have two := second.toNat_lt
  rw [writeBigEndian_two, readBigEndian_two, UInt16.toNat_ofNat']
  congr 1
  · exact ofNat_eq_byte (by omega)
  · congr 1
    exact ofNat_eq_byte (by omega)

theorem writeBigEndian_ofNat_word (a b c d : UInt8) :
    writeBigEndian 4 (UInt32.ofNat (readBigEndian [a, b, c, d])).toNat = [a, b, c, d] := by
  have one := a.toNat_lt
  have two := b.toNat_lt
  have three := c.toNat_lt
  have four := d.toNat_lt
  rw [writeBigEndian_four, readBigEndian_four, UInt32.toNat_ofNat']
  congr 1
  · exact ofNat_eq_byte (by omega)
  congr 1
  · exact ofNat_eq_byte (by omega)
  congr 1
  · exact ofNat_eq_byte (by omega)
  congr 1
  exact ofNat_eq_byte (by omega)

/-- What is known of a media packet besides the parity is enough to finish it. -/
theorem finishPacketRecovery_eq (media : IsMedia mediaSsrc lost) (room : lost.length ≤ data.length)
    (firstByte : padded data 0 &&& 0x3f = padded lost 0 &&& 0x3f)
    (fields : ∀ i, 0 < i → i < 8 → padded data i = padded (recoveryFields lost) i)
    (payload : ∀ i, padded data (kRtpHeaderSize + i) = padded (mediaPayload lost) i) :
    finishPacketRecovery mediaSsrc (parseSequenceNumber lost) data = .ok (some lost) := by
  have twelve : kRtpHeaderSize = 12 := rfl
  have limit : kIpPacketSize = 1500 := rfl
  obtain ⟨whole, short, version, ssrc⟩ := media
  obtain ⟨d0, d1, d2, d3, d4, d5, d6, d7, tail, rfl⟩ := exists_eight lost (by omega)
  simp only [List.length_cons] at whole short room
  obtain ⟨d8, d9, d10, d11, rest, rfl⟩ := exists_four tail (by omega)
  simp only [List.length_cons] at whole short room
  obtain ⟨r0, r1, r2, r3, r4, r5, r6, r7, more, rfl⟩ := exists_eight data (by omega)
  simp only [List.length_cons] at room
  obtain ⟨r8, r9, r10, r11, remaining, rfl⟩ := exists_four more (by omega)
  simp only [List.length_cons] at room
  have f1 : r1 = d1 := fields 1 (by decide) (by decide)
  have f2 : r2 = UInt8.ofNat ((rest.length + 12 - kRtpHeaderSize) / 256 ^ 1) :=
    fields 2 (by decide) (by decide)
  have f3 : r3 = UInt8.ofNat ((rest.length + 12 - kRtpHeaderSize) / 256 ^ 0) :=
    fields 3 (by decide) (by decide)
  have f4 : r4 = d4 := fields 4 (by decide) (by decide)
  have f5 : r5 = d5 := fields 5 (by decide) (by decide)
  have f6 : r6 = d6 := fields 6 (by decide) (by decide)
  have f7 : r7 = d7 := fields 7 (by decide) (by decide)
  have spelled : readBigEndian [r2, r3] = rest.length := by
    have value : readBigEndian (writeBigEndian 2 (rest.length + 12 - kRtpHeaderSize)) =
        (rest.length + 12 - kRtpHeaderSize) % 256 ^ 2 := readBigEndian_writeBigEndian _ _
    have bytes : writeBigEndian 2 (rest.length + 12 - kRtpHeaderSize) = [r2, r3] := by
      rw [f2, f3]
      rfl
    rw [bytes] at value
    omega
  have behind : remaining.take rest.length = rest := by
    apply ext_padded
    · rw [List.length_take]
      omega
    · intro i inside
      rw [List.length_take] at inside
      have same := payload i
      unfold mediaPayload at same
      rw [← padded_drop, twelve] at same
      rw [padded_take (by omega)]
      exact same
  have number : writeBigEndian 2 (parseSequenceNumber
      (d0 :: d1 :: d2 :: d3 :: d4 :: d5 :: d6 :: d7 :: d8 :: d9 :: d10 :: d11 :: rest)).toNat =
      [d2, d3] := writeBigEndian_ofNat_half d2 d3
  have source : writeBigEndian 4 mediaSsrc.toNat = [d8, d9, d10, d11] := by
    rw [← ssrc]
    exact writeBigEndian_ofNat_word d8 d9 d10 d11
  have two : (r0 ||| 0x80) &&& 0xbf = d0 := version_two r0 d0 version firstByte
  unfold finishPacketRecovery
  dsimp only
  rw [number, source]
  have size : readBigEndian ((List.drop 2 (patched 0 [(padded (r0 :: r1 :: r2 :: r3 :: r4 :: r5 :: r6 ::
      r7 :: r8 :: r9 :: r10 :: r11 :: remaining) 0 ||| 0x80) &&& 0xbf] (r0 :: r1 :: r2 :: r3 :: r4 ::
      r5 :: r6 :: r7 :: r8 :: r9 :: r10 :: r11 :: remaining))).take 2) = rest.length := spelled
  have length : (patched 0 [(padded (r0 :: r1 :: r2 :: r3 :: r4 :: r5 :: r6 ::
      r7 :: r8 :: r9 :: r10 :: r11 :: remaining) 0 ||| 0x80) &&& 0xbf] (r0 :: r1 :: r2 :: r3 :: r4 ::
      r5 :: r6 :: r7 :: r8 :: r9 :: r10 :: r11 :: remaining)).length = remaining.length + 12 := rfl
  rw [size, length, if_neg (by omega), if_neg (by omega)]
  show Except.ok (some (((r0 ||| 0x80) &&& 0xbf) :: r1 :: d2 :: d3 :: r4 :: r5 :: r6 :: r7 :: d8 ::
    d9 :: d10 :: d11 :: remaining.take rest.length)) = _
  rw [behind, two, f1, f4, f5, f6, f7]

end Finish

section Recover

variable {mediaSsrc : UInt32} {seqNumBase : UInt16} {headerSize : Nat} {packetMask data : List UInt8}
variable {header : FecHeader} {earlier later : List (List UInt8)} {lost : List UInt8}
variable {protectedPackets : List ProtectedPacket}

/-- Recovery starts from what the FEC packet holds. -/
theorem startPacketRecovery_eq {members : List (List UInt8)}
    (holds : HoldsParity headerSize members data) (filled : members ≠ []) (wide : 12 ≤ headerSize)
    (restores : header.Restores headerSize mediaSsrc seqNumBase packetMask data) :
    startPacketRecovery header = some
    (header.data.take kRtpHeaderSize ++ data.drop headerSize) := by
  have twelve : kRtpHeaderSize = 12 := rfl
  have short := holds.short
  have long := holds.length filled
  have all : (data.drop headerSize).take (data.length - headerSize) = data.drop headerSize := by
    apply List.take_of_length_le
    rw [List.length_drop]
  unfold startPacketRecovery
  rw [restores.fecHeaderSize, restores.protectionLength, restores.length, restores.payload, all,
    if_neg (by omega), if_neg (by omega)]

/-- The one packet that is missing is recovered byte for byte. -/
theorem recoverPacket_eq (holds : HoldsParity headerSize (earlier ++ lost :: later) data)
    (wide : 12 ≤ headerSize)
    (restores : header.Restores headerSize mediaSsrc seqNumBase packetMask data)
    (whole : ∀ media ∈ earlier ++ later, kRtpHeaderSize ≤ media.length)
    (media : IsMedia mediaSsrc lost) (pointed : pointedTo protectedPackets = earlier ++ later)
    (missing : lastMissing protectedPackets none = some (parseSequenceNumber lost)) :
    recoverPacket header protectedPackets = .ok (some (parseSequenceNumber lost, lost)) := by
  have twelve : kRtpHeaderSize = 12 := rfl
  have filled : earlier ++ lost :: later ≠ [] :=
    List.append_ne_nil_of_right_ne_nil _ (List.cons_ne_nil _ _)
  have long := holds.length filled
  have covers := holds.covers
  have begun := startPacketRecovery_eq holds filled wide restores
  have headed : (header.data.take kRtpHeaderSize).length = kRtpHeaderSize := by
    rw [List.length_take, restores.length]
    omega
  have length : (header.data.take kRtpHeaderSize ++ data.drop headerSize).length =
      kRtpHeaderSize + (data.length - headerSize) := by
    rw [List.length_append, headed, List.length_drop]
  obtain ⟨after, done, sameLength, bytes⟩ := xorProtected_spec protectedPackets none
    (header.data.take kRtpHeaderSize ++ data.drop headerSize) (by
      intro pkt member
      rw [pointed] at member
      refine ⟨whole pkt member, ?_⟩
      have covered := covers pkt (by
        rcases List.mem_append.mp member with before | behind
        · exact List.mem_append_left _ before
        · exact List.mem_append_right _ (List.mem_cons_of_mem _ behind))
      rw [length]
      omega)
  rw [pointed] at bytes
  have split (field : List UInt8 → List UInt8) (i : Nat) :
      parity ((earlier ++ lost :: later).map field) i ^^^ parity ((earlier ++ later).map field) i =
        padded (field lost) i := by
    rw [List.map_append, List.map_append, List.map_cons]
    exact parity_without _ _
  have low : ∀ i < 8, padded after i =
      padded header.data i ^^^ parity ((earlier ++ later).map recoveryFields) i := by
    intro i below
    rw [bytes, if_neg (by omega), UInt8.xor_zero, padded_append_left (by omega),
      padded_take (by omega)]
  have finished : finishPacketRecovery mediaSsrc (parseSequenceNumber lost) after =
      .ok (some lost) := by
    apply finishPacketRecovery_eq media
    · have covered := covers lost List.mem_append_cons_self
      have shrunk : (mediaPayload lost).length = lost.length - kRtpHeaderSize := length_mediaPayload
      omega
    · have first := split recoveryFields 0
      rw [← holds.fields 0 (by omega)] at first
      have sent : padded (recoveryFields lost) 0 = padded lost 0 := by
        have whole := media.whole
        unfold recoveryFields
        rw [padded_append_left (by rw [List.length_take]; omega), padded_take (by omega)]
      rw [low 0 (by omega), ← sent, ← first, and_xor, restores.firstByte, ← and_xor]
    · intro i positive below
      rw [low i below, restores.fields i positive below, holds.fields i below]
      exact split recoveryFields i
    · intro i
      have zero : parity ((earlier ++ later).map recoveryFields) (kRtpHeaderSize + i) = 0 := by
        apply parity_eq_zero
        intro string member
        obtain ⟨packet, inside, rfl⟩ := List.mem_map.mp member
        rw [length_recoveryFields (whole packet inside)]
        omega
      rw [bytes, if_pos (Nat.le_add_right _ _), zero, UInt8.zero_xor,
        padded_append_right (by omega), headed, Nat.add_sub_cancel_left, padded_drop,
        holds.payload]
      exact split mediaPayload i
  unfold recoverPacket
  rw [begun]
  dsimp only
  rw [done, missing]
  dsimp only
  rw [restores.ssrc, finished]

end Recover

end MpWebRtc
