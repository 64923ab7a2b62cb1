import MpWebRtc.Collector
import MpWebRtc.Sender.History

/-!
# Building retransmissions

A packet that is asked for again is taken from the history of the path it was numbered
on. It keeps its number there, and is sent on the best path: ids 3 and 4 say that this
is not the path it was numbered on. With RTX the packet is wrapped, with its RTP
sequence number in front of its payload; the path extensions stay in the header.
-/

namespace MpWebRtc

/-- The settings of a stream on the sending side. Media is being sent. -/
structure SenderConfig where
  ssrc : Nat
  rtxSsrc : Nat
  rtx : Bool
  rtxPayloadTypeMap : Nat → Option Nat
  rtxHeadersSize : Packet → Nat
  maxPacketSize : Nat
  useEarlyLossDetection : Bool := true

/-- The bytes of a 16-bit number, most significant first. -/
def bigEndian (n : UInt16) : List UInt8 := [(n >>> 8).toUInt8, n.toUInt8]

variable (cfg : SenderConfig)

/-- `BuildRtxPacket`. The RTX sequence number is used up even if the packet turns out
to be too large. -/
def buildRtxPacket (sequenceNumberRtx : UInt16) (p : Packet) : UInt16 × Option Packet :=
  match cfg.rtxPayloadTypeMap p.payloadType with
  | none => (sequenceNumberRtx, none)
  | some payloadType =>
      let rtxPacket : Packet :=
        { ssrc := cfg.rtxSsrc
          sequenceNumber := sequenceNumberRtx
          payloadType := payloadType
          headersSize := cfg.rtxHeadersSize p
          payload := bigEndian p.sequenceNumber ++ p.payload
          packetType := none
          captureTimeMs := p.captureTimeMs
          sandy := p.sandy
          mpFlowSeqNum := p.mpFlowSeqNum
          transportSequenceNumber := p.transportSequenceNumber
          mpTransportSequenceNumber := p.mpTransportSequenceNumber }
      (sequenceNumberRtx + 1,
        if rtxPacket.headersSize + rtxPacket.payload.length ≤ cfg.maxPacketSize then
          some rtxPacket
        else none)

/-- Label a retransmission with a path id and the number of the stored packet. -/
def relabel (id : Nat) (stored : Packet) (p : Packet) : Packet :=
  { p.label id stored.subflowSeq with
    retransmittedSequenceNumber := some stored.subflowSeq }

/-- The packet to retransmit, unless the rate limiter refuses it. -/
def encapsulate (id : Nat) (admitted : Bool) (sequenceNumberRtx : UInt16)
    (stored : Packet) : UInt16 × Option Packet :=
  if admitted then
    let built :=
      if cfg.rtx then buildRtxPacket cfg sequenceNumberRtx stored
      else (sequenceNumberRtx, some stored)
    (built.1, built.2.map (relabel id stored))
  else (sequenceNumberRtx, none)

/-- What an attempt to retransmit leaves: the history, the RTX counter, the bytes sent
or an error, and the packet for the pacer. -/
structure Resent where
  history : PacketHistory
  sequenceNumberRtx : UInt16
  result : Int
  packet : Option Packet

/-- The common body of `ReSendPacketPrimary` and `ReSendPacketSecondary`. -/
def reSendFrom (id : Nat) (h : PacketHistory) (now : Int)
    (sequenceNumberRtx packetId : UInt16) (admitted : Bool) : Resent :=
  match h.getPacketState now packetId with
  | none => ⟨h, sequenceNumberRtx, 0, none⟩
  | some stored =>
      if stored.pendingTransmission then ⟨h, sequenceNumberRtx, 0, none⟩
      else
        match h.getPacketAndMarkAsPending now packetId (encapsulate cfg id admitted)
          sequenceNumberRtx with
        | (h, sequenceNumberRtx, none) => ⟨h, sequenceNumberRtx, -1, none⟩
        | (h, sequenceNumberRtx, some p) =>
            ⟨h, sequenceNumberRtx, (stored.packet.map (·.size)).getD 0,
              some { p with packetType := some .kRetransmission }⟩

/-- The id of a retransmission numbered on path 1. -/
def primaryId (c : Collector) : Nat := if c.bestPathid = 2 then 3 else 1

/-- The id of a retransmission numbered on path 2. -/
def secondaryId (c : Collector) : Nat := if c.bestPathid = 1 then 4 else 2

/-- The path a packet with this id was numbered on. -/
def originOf (id : Nat) : Nat := if id = 2 ∨ id = 4 then 2 else 1

section Specification

variable {cfg : SenderConfig} {id : Nat} {h : PacketHistory} {now : Int}
variable {sequenceNumberRtx packetId : UInt16} {admitted : Bool}

/-- What is in an RTX packet, once it is built. -/
structure Wraps (cfg : SenderConfig) (stored p : Packet) : Prop where
  payloadType : cfg.rtxPayloadTypeMap stored.payloadType = some p.payloadType
  ssrc : p.ssrc = cfg.rtxSsrc
  payload : p.payload = bigEndian stored.sequenceNumber ++ stored.payload
  sandy : p.sandy = stored.sandy
  mpFlowSeqNum : p.mpFlowSeqNum = stored.mpFlowSeqNum
  original : p.retransmittedSequenceNumber = none

theorem buildRtxPacket_wraps {counter : UInt16} {stored p : Packet}
    (built : (buildRtxPacket cfg counter stored).2 = some p) : Wraps cfg stored p := by
  unfold buildRtxPacket at built
  split at built
  · simp at built
  · rename_i payloadType mapped
    dsimp only at built
    split at built
    · obtain rfl := Option.some.inj built
      exact ⟨mapped, rfl, rfl, rfl, rfl, rfl⟩
    · simp at built

/-- A retransmission of this stored packet: plain, or wrapped. -/
inductive Retransmits (cfg : SenderConfig) (id : Nat) (stored p : Packet) : Prop
  | plain (isPlain : cfg.rtx = false)
      (same : p = { relabel id stored stored with packetType := some .kRetransmission })
  | rtx (isRtx : cfg.rtx = true) (rtxPacket : Packet) (counter : UInt16)
      (built : (buildRtxPacket cfg counter stored).2 = some rtxPacket)
      (same : p = { relabel id stored rtxPacket with packetType := some .kRetransmission })

/-- A retransmission was made from the stored packet of this number, which is now
pending. -/
structure Retransmitted (cfg : SenderConfig) (id : Nat) (h : PacketHistory) (packetId : UInt16)
    (resent : Resent) (p : Packet) : Prop where
  packet : resent.packet = some p
  history : resent.history =
    h.updateStored packetId ({ · with pendingTransmission := true })
  stored : ∃ old original, h.getStoredPacket packetId = some old ∧ old.packet = some original ∧
    Retransmits cfg id original p

theorem encapsulate_eq_some {counter : UInt16} {stored p : Packet}
    (built : encapsulate cfg id admitted sequenceNumberRtx stored = (counter, some p)) :
    Retransmits cfg id stored { p with packetType := some .kRetransmission } := by
  unfold encapsulate at built
  split at built
  · dsimp only at built
    by_cases isRtx : cfg.rtx
    · simp only [isRtx, ↓reduceIte, Prod.mk.injEq, Option.map_eq_some_iff] at built
      obtain ⟨-, rtxPacket, wrapped, rfl⟩ := built
      exact .rtx isRtx rtxPacket _ wrapped rfl
    · simp only [isRtx, Bool.false_eq_true, ↓reduceIte, Option.map_some, Prod.mk.injEq,
        Option.some.injEq] at built
      exact .plain (by simpa using isRtx) (by rw [← built.2])
  · simp at built

/-- An attempt to retransmit either leaves the history alone, or marks one packet as
pending and hands over its retransmission. -/
theorem reSendFrom_cases (cfg : SenderConfig) (id : Nat) (h : PacketHistory) (now : Int)
    (sequenceNumberRtx packetId : UInt16) (admitted : Bool) :
    ((reSendFrom cfg id h now sequenceNumberRtx packetId admitted).packet = none ∧
        (reSendFrom cfg id h now sequenceNumberRtx packetId admitted).history = h) ∨
      ∃ p, Retransmitted cfg id h packetId
        (reSendFrom cfg id h now sequenceNumberRtx packetId admitted) p := by
  unfold reSendFrom
  cases state : h.getPacketState now packetId with
  | none => exact .inl ⟨rfl, rfl⟩
  | some stored =>
      have found : h.getStoredPacket packetId = some stored := by
        unfold PacketHistory.getPacketState at state
        split at state
        · exact (Option.filter_eq_some_iff.mp state).1
        · simp at state
      cases isPending : stored.pendingTransmission with
      | true => exact .inl (by simp [isPending])
      | false =>
          simp only [Bool.false_eq_true, ↓reduceIte, PacketHistory.getPacketAndMarkAsPending,
            state, Option.bind_some, isPending]
          cases original : stored.packet with
          | none => exact .inl ⟨rfl, rfl⟩
          | some original' =>
              dsimp only
              cases built : encapsulate cfg id admitted sequenceNumberRtx original' with
              | mk counter packet =>
                  cases packet with
                  | none => exact .inl ⟨rfl, rfl⟩
                  | some p =>
                      exact .inr ⟨_, rfl, rfl, stored, original', found, original,
                        encapsulate_eq_some built⟩

end Specification

end MpWebRtc
