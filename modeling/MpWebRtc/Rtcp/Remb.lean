import MpWebRtc.Rtcp.Packets

/-!
# Bitrates of the receiver

`Remb` sends a bitrate as a mantissa of 18 bits and an exponent, rounded down. `Parse` refuses
what is lost by shifting the mantissa, but a bit that gets to the place of the sign is not lost:
the bitrate is negative then.
-/

namespace MpWebRtc

open Math.Memory Math.Wire

/-- What is scaled down is rounded down, and no further than it has to be. -/
theorem scaleDown_spec (k value : Nat) :
    (scaleDown (2 ^ (k + 1) - 1) value).1 =
        value / 2 ^ (scaleDown (2 ^ (k + 1) - 1) value).2 ∧
      (scaleDown (2 ^ (k + 1) - 1) value).1 < 2 ^ (k + 1) ∧
      ((scaleDown (2 ^ (k + 1) - 1) value).2 = 0 ∨
        2 ^ k ≤ (scaleDown (2 ^ (k + 1) - 1) value).1) := by
  have positive : 0 < 2 ^ (k + 1) := Nat.two_pow_pos _
  induction value using scaleDown.induct (2 ^ (k + 1) - 1) with
  | case1 value small =>
      rw [scaleDown, if_pos small]
      refine ⟨(Nat.div_one value).symm, ?_, .inl rfl⟩
      change value < _
      omega
  | case2 value large ih =>
      obtain ⟨rounded, below, tight⟩ := ih
      rw [scaleDown, if_neg large]
      refine ⟨?_, below, .inr ?_⟩
      · rw [rounded, Nat.div_div_eq_div_mul, ← Nat.pow_succ']
      · dsimp only
        rcases tight with whole | tight
        · rw [rounded, whole, Nat.pow_zero, Nat.div_one]
          rw [Nat.pow_succ] at large
          omega
        · exact tight

/-- `rtcp::Remb`. -/
structure Remb where
  senderSsrc : UInt32
  bitrateBps : Int
  ssrcs : List UInt32

namespace Remb

/-- `kUniqueIdentifier`. -/
def kUniqueIdentifier : UInt32 := 0x52454D42

/-- The exponent in the payload. -/
def exponenta (payload : List UInt8) : Nat := (payload.getD 13 0).toNat >>> 2

/-- The mantissa in the payload. -/
def mantissa (payload : List UInt8) : Nat :=
  ((payload.getD 13 0).toNat &&& 0x03) <<< 16 ||| readBigEndian ((payload.drop 14).take 2)

/-- `Remb::Parse`. The product is taken in 64 bits and stored as a signed number. -/
def parse (packet : CommonHeader) : Option Remb :=
  let payload := packet.payload
  if payload.length < 16 then none
  else if ReportBlock.readWord payload 8 ≠ kUniqueIdentifier then none
  else if payload.length ≠ 8 + (2 + (payload.getD 12 0).toNat) * 4 then none
  else
    let shifted := mantissa payload <<< exponenta payload % 2 ^ 64
    if shifted >>> exponenta payload ≠ mantissa payload then none
    else
      some
        { senderSsrc := ReportBlock.readWord payload 0
          bitrateBps := (shifted : Int).bmod (2 ^ 64)
          ssrcs := (List.range (payload.getD 12 0).toNat).map fun i =>
            ReportBlock.readWord payload (16 + 4 * i) }

theorem exponenta_lt (payload : List UInt8) : exponenta payload < 64 := by
  have small := (payload.getD 13 0).toNat_lt
  unfold exponenta
  rw [Nat.shiftRight_eq_div_pow]
  omega

/-- What passes the test is the product of mantissa and power. -/
theorem shifted_eq {mantissa exponenta : Nat} (small : exponenta < 64)
    (passed : (mantissa <<< exponenta % 2 ^ 64) >>> exponenta = mantissa) :
    mantissa <<< exponenta % 2 ^ 64 = mantissa * 2 ^ exponenta := by
  have divides : 2 ^ exponenta ∣ mantissa <<< exponenta % 2 ^ 64 := by
    rw [Nat.shiftLeft_eq]
    exact (Nat.dvd_mod_iff (Nat.pow_dvd_pow 2 small.le)).mpr (Nat.dvd_mul_left _ _)
  rw [Nat.shiftRight_eq_div_pow] at passed
  rw [← Nat.div_mul_cancel divides, passed]

theorem passes_of_lt {mantissa exponenta : Nat} (small : mantissa * 2 ^ exponenta < 2 ^ 64) :
    mantissa <<< exponenta % 2 ^ 64 = mantissa * 2 ^ exponenta ∧
      (mantissa <<< exponenta % 2 ^ 64) >>> exponenta = mantissa := by
  rw [Nat.shiftLeft_eq, Nat.mod_eq_of_lt small, Nat.shiftRight_eq_div_pow,
    Nat.mul_div_cancel _ (Nat.two_pow_pos _)]
  exact ⟨rfl, rfl⟩

/-- A number of 64 bits is not negative below the place of the sign. -/
theorem bmod_nonneg_iff {value : Nat} (small : value < 2 ^ 64) :
    0 ≤ (value : Int).bmod (2 ^ 64) ↔ value < 2 ^ 63 := by
  rw [Int.bmod_def]
  have same : (value : Int) % ((2 ^ 64 : Nat) : Int) = value := by omega
  rw [same]
  split <;> omega

theorem bmod_of_lt {value : Nat} (small : value < 2 ^ 63) :
    (value : Int).bmod (2 ^ 64) = value := by
  rw [Int.bmod_def]
  have same : (value : Int) % ((2 ^ 64 : Nat) : Int) = value := by omega
  rw [same, if_pos (by omega)]

/-- What is parsed is not negative exactly if the product is below the place of the sign. -/
theorem bitrate_nonneg_iff {packet : CommonHeader} {remb : Remb}
    (parsed : parse packet = some remb) :
    0 ≤ remb.bitrateBps ↔
      mantissa packet.payload * 2 ^ exponenta packet.payload < 2 ^ 63 := by
  unfold parse at parsed
  dsimp only at parsed
  split at parsed
  · cases parsed
  split at parsed
  · cases parsed
  split at parsed
  · cases parsed
  split at parsed
  · cases parsed
  next passed =>
  obtain rfl := Option.some.inj parsed
  dsimp only
  rw [bmod_nonneg_iff (Nat.mod_lt _ (Nat.two_pow_pos 64)),
    shifted_eq (exponenta_lt _) (not_not.mp passed)]

/-- The byte of the exponent and the two highest bits of the mantissa. -/
theorem byte_read {exponenta mantissa : Nat} (small : exponenta < 64) (few : mantissa < 2 ^ 18) :
    (UInt8.ofNat (exponenta <<< 2 ||| mantissa >>> 16)).toNat >>> 2 = exponenta ∧
      (UInt8.ofNat (exponenta <<< 2 ||| mantissa >>> 16)).toNat &&& 0x03 = mantissa / 2 ^ 16 := by
  have high : mantissa >>> 16 < 2 ^ 2 := by
    rw [Nat.shiftRight_eq_div_pow]
    omega
  have sum : (UInt8.ofNat (exponenta <<< 2 ||| mantissa >>> 16)).toNat =
      exponenta * 4 + mantissa / 2 ^ 16 := by
    rw [← Nat.shiftLeft_add_eq_or_of_lt high, Nat.shiftLeft_eq, Nat.shiftRight_eq_div_pow,
      UInt8.toNat_ofNat']
    omega
  have last := Nat.and_two_pow_sub_one_eq_mod (exponenta * 4 + mantissa / 2 ^ 16) 2
  rw [sum, Nat.shiftRight_eq_div_pow]
  change _ ∧ (exponenta * 4 + mantissa / 2 ^ 16) &&& (2 ^ 2 - 1) = _
  rw [last]
  omega

/-- The mantissa is put together again. -/
theorem mantissa_read (mantissa : Nat) :
    (mantissa / 2 ^ 16) <<< 16 ||| readBigEndian (writeBigEndian 2 (mantissa &&& 0xffff)) =
      mantissa := by
  have low : mantissa &&& 0xffff = mantissa % 2 ^ 16 := Nat.and_two_pow_sub_one_eq_mod mantissa 16
  have small : mantissa % 2 ^ 16 % 256 ^ 2 < 2 ^ 16 := by omega
  rw [readBigEndian_writeBigEndian, low, ← Nat.shiftLeft_add_eq_or_of_lt small, Nat.shiftLeft_eq]
  omega

/-- What is sent of a bitrate. -/
def sentBps (bitrateBps : Nat) : Nat :=
  (scaleDown 0x3ffff bitrateBps).1 * 2 ^ (scaleDown 0x3ffff bitrateBps).2

/-- Mantissa and exponent of a bitrate that fits. -/
theorem scaled_fits {bitrateBps : Nat} (small : bitrateBps < 2 ^ 63) :
    (scaleDown 0x3ffff bitrateBps).1 < 2 ^ 18 ∧ (scaleDown 0x3ffff bitrateBps).2 < 64 ∧
      sentBps bitrateBps ≤ bitrateBps := by
  obtain ⟨rounded, below, tight⟩ := scaleDown_spec 17 bitrateBps
  change (scaleDown 0x3ffff bitrateBps).1 = bitrateBps / 2 ^ (scaleDown 0x3ffff bitrateBps).2
    at rounded
  refine ⟨below, ?_, ?_⟩
  · rcases tight with whole | tight
    · change (scaleDown 0x3ffff bitrateBps).2 = 0 at whole
      rw [whole]
      decide
    · by_contra large
      have power := Nat.pow_le_pow_right Nat.two_pos (Nat.not_lt.mp large)
      change 2 ^ 17 ≤ (scaleDown 0x3ffff bitrateBps).1 at tight
      rw [rounded, Nat.div_eq_of_lt (by omega)] at tight
      exact absurd tight (by decide)
  · unfold sentBps
    rw [rounded]
    exact Nat.div_mul_le_self _ _

/-- A packet is read back, with the bitrate that was sent. -/
theorem parse_bytes (senderSsrc : UInt32) {bitrateBps : Nat} (small : bitrateBps < 2 ^ 63)
    {ssrcs : List UInt32} (few : ssrcs.length ≤ kMaxNumberOfSsrcs) :
    ∃ header,
      CommonHeader.parse (RtcpPacket.remb senderSsrc bitrateBps ssrcs).bytes = some header ∧
      parse header = some ⟨senderSsrc, sentBps bitrateBps, ssrcs⟩ := by
  obtain ⟨mantissaFits, exponentaFits, rounded⟩ := scaled_fits small
  have words := length_flatMap_of_forall length_wordBytes ssrcs
  have size : (RtcpPacket.remb senderSsrc bitrateBps ssrcs).payload.length =
      16 + ssrcs.length * 4 := by
    simp only [RtcpPacket.payload, List.length_append, length_wordBytes, List.length_cons,
      List.length_nil, length_writeBigEndian, words]
  have short : (RtcpPacket.remb senderSsrc bitrateBps ssrcs).blockLength ≤ 65536 := by
    unfold kMaxNumberOfSsrcs at few
    rw [RtcpPacket.blockLength, size, kHeaderLength]
    omega
  have parsed := RtcpPacket.parse_bytes _ short []
  rw [List.append_nil] at parsed
  refine ⟨_, parsed, ?_⟩
  have count : ((RtcpPacket.remb senderSsrc bitrateBps ssrcs).payload.getD 12 0).toNat =
      ssrcs.length := by
    change (UInt8.ofNat ssrcs.length).toNat = _
    unfold kMaxNumberOfSsrcs at few
    rw [UInt8.toNat_ofNat']
    omega
  have name : ReportBlock.readWord (RtcpPacket.remb senderSsrc bitrateBps ssrcs).payload 8 =
      kUniqueIdentifier := by
    change UInt32.ofNat (readBigEndian (wordBytes kUniqueIdentifier)) = kUniqueIdentifier
    exact readBigEndian_wordBytes _
  obtain ⟨high, low⟩ := byte_read exponentaFits mantissaFits
  have power : exponenta (RtcpPacket.remb senderSsrc bitrateBps ssrcs).payload =
      (scaleDown 0x3ffff bitrateBps).2 := high
  have number : mantissa (RtcpPacket.remb senderSsrc bitrateBps ssrcs).payload =
      (scaleDown 0x3ffff bitrateBps).1 :=
    (congrArg (fun high => high <<< 16 ||| readBigEndian (writeBigEndian 2
      ((scaleDown 0x3ffff bitrateBps).1 &&& 0xffff))) low).trans (mantissa_read _)
  have listed : (List.range ssrcs.length).map (fun i => ReportBlock.readWord
      (RtcpPacket.remb senderSsrc bitrateBps ssrcs).payload (16 + 4 * i)) = ssrcs := by
    have behind := @ReportBlock.map_readWord
      ((RtcpPacket.remb senderSsrc bitrateBps ssrcs).payload.take 16) [] 16
      (by rw [List.length_take, size]; omega) ssrcs
    have rest : (RtcpPacket.remb senderSsrc bitrateBps ssrcs).payload.drop 16 =
        ssrcs.flatMap wordBytes := rfl
    rw [List.append_nil, ← rest, List.take_append_drop] at behind
    exact behind
  have source : ReportBlock.readWord (RtcpPacket.remb senderSsrc bitrateBps ssrcs).payload 0 =
      senderSsrc := by
    change UInt32.ofNat (readBigEndian (wordBytes senderSsrc)) = senderSsrc
    exact readBigEndian_wordBytes senderSsrc
  have fits : sentBps bitrateBps < 2 ^ 64 := by omega
  obtain ⟨product, passed⟩ := passes_of_lt fits
  unfold parse
  dsimp only
  rw [size, if_neg (by omega), name, if_neg (not_not_intro rfl), count, if_neg (by omega), power,
    number, if_neg (not_not_intro passed), product, listed, source]
  have signed := bmod_of_lt (Nat.lt_of_le_of_lt rounded small)
  unfold sentBps at signed ⊢
  rw [signed]

/-- The bitrate that is sent is near below, and the same if it is small. -/
theorem sentBps_near (bitrateBps : Nat) :
    ((bitrateBps - sentBps bitrateBps) * 2 ^ 17 < bitrateBps ↔ 0 < bitrateBps) ∧
      (bitrateBps ≤ 0x3ffff → sentBps bitrateBps = bitrateBps) := by
  obtain ⟨rounded, -, tight⟩ := scaleDown_spec 17 bitrateBps
  change (scaleDown 0x3ffff bitrateBps).1 = bitrateBps / 2 ^ (scaleDown 0x3ffff bitrateBps).2
    at rounded
  change (scaleDown 0x3ffff bitrateBps).2 = 0 ∨ 2 ^ 17 ≤ (scaleDown 0x3ffff bitrateBps).1 at tight
  constructor
  · refine ⟨fun near => Nat.pos_of_ne_zero fun zero => ?_, fun positive => ?_⟩
    · rw [zero] at near
      exact Nat.not_lt_zero _ near
    · rcases tight with whole | tight
      · have same : sentBps bitrateBps = bitrateBps := by
          rw [sentBps, rounded, whole, Nat.pow_zero, Nat.div_one, Nat.mul_one]
        rw [same, Nat.sub_self, Nat.zero_mul]
        exact positive
      · have remainder := Nat.mod_lt bitrateBps
          (Nat.two_pow_pos (scaleDown 0x3ffff bitrateBps).2)
        have parts := Nat.div_add_mod bitrateBps (2 ^ (scaleDown 0x3ffff bitrateBps).2)
        have sent : sentBps bitrateBps = 2 ^ (scaleDown 0x3ffff bitrateBps).2 *
            (bitrateBps / 2 ^ (scaleDown 0x3ffff bitrateBps).2) := by
          rw [sentBps, rounded, Nat.mul_comm]
        rw [rounded] at tight
        calc
          (bitrateBps - sentBps bitrateBps) * 2 ^ 17 =
              bitrateBps % 2 ^ (scaleDown 0x3ffff bitrateBps).2 * 2 ^ 17 := by
            rw [sent, ← Nat.mod_eq_sub_mul_div]
          _ < 2 ^ (scaleDown 0x3ffff bitrateBps).2 * 2 ^ 17 :=
            Nat.mul_lt_mul_of_pos_right remainder (Nat.two_pow_pos 17)
          _ ≤ 2 ^ (scaleDown 0x3ffff bitrateBps).2 *
              (bitrateBps / 2 ^ (scaleDown 0x3ffff bitrateBps).2) := Nat.mul_le_mul_left _ tight
          _ ≤ bitrateBps := Nat.mul_div_le _ _
  · intro small
    unfold sentBps
    rw [scaleDown, if_pos small, Nat.pow_zero, Nat.mul_one]

/-- **The codec of bitrates.** A bitrate below the place of the sign comes back with its sources,
rounded down by less than a share of 2^17 unless it is 0, and as it was if it is small. What any
payload is parsed to is not negative exactly if mantissa and power give less than the place of the
sign. -/
theorem remb_codec_iff (senderSsrc : UInt32) (bitrateBps : Nat) (ssrcs : List UInt32)
    (packet : CommonHeader) :
    (bitrateBps < 2 ^ 63 → ssrcs.length ≤ kMaxNumberOfSsrcs → ∃ header remb,
      CommonHeader.parse (RtcpPacket.remb senderSsrc bitrateBps ssrcs).bytes = some header ∧
      parse header = some remb ∧ remb.ssrcs = ssrcs ∧ remb.bitrateBps ≤ bitrateBps ∧
      ((bitrateBps - remb.bitrateBps) * 2 ^ 17 < bitrateBps ↔ 0 < bitrateBps) ∧
      (bitrateBps ≤ 0x3ffff → remb.bitrateBps = bitrateBps)) ∧
    ∀ remb : Remb, parse packet = some remb →
      (0 ≤ remb.bitrateBps ↔
        mantissa packet.payload * 2 ^ exponenta packet.payload < 2 ^ 63) := by
  constructor
  · intro small few
    obtain ⟨header, parsed, read⟩ := parse_bytes senderSsrc small few
    obtain ⟨near, same⟩ := sentBps_near bitrateBps
    have rounded := (scaled_fits small).2.2
    refine ⟨header, _, parsed, read, rfl, Int.ofNat_le.mpr rounded, ?_, ?_⟩
    · dsimp only
      omega
    · intro little
      exact congrArg Nat.cast (same little)
  · intro remb parsed
    exact bitrate_nonneg_iff parsed

theorem remb_codec_million :
    ∃ header remb, CommonHeader.parse (RtcpPacket.remb 7 1000000 [9]).bytes = some header ∧
      parse header = some remb ∧ remb.ssrcs = [9] ∧ remb.bitrateBps ≤ 1000000 ∧
      (1000000 - remb.bitrateBps) * 2 ^ 17 < 1000000 := by
  obtain ⟨header, remb, parsed, read, same, rounded, near, -⟩ :=
    (remb_codec_iff 7 1000000 [9] ⟨206, 15, 0, [], 3, []⟩).1 (by decide) (by decide)
  exact ⟨header, remb, parsed, read, same, rounded, near.mpr (by decide)⟩

/-- A mantissa with its highest bit only, moved to the place of the sign. -/
def signPayload : List UInt8 :=
  [0, 0, 0, 1, 0, 0, 0, 0, 0x52, 0x45, 0x4D, 0x42, 0, 46 * 4 + 2, 0, 0]

theorem parsed_bitrate_negative :
    (parse ⟨206, 15, 0, signPayload, 3, []⟩).map Remb.bitrateBps = some (-2 ^ 63) := by
  decide

end Remb

end MpWebRtc
