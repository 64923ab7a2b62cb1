import MpWebRtc.Router
import MpWebRtc.Sender.Feedback
import MpWebRtc.Sender.Retransmission

/-!
# Leaving the sender

`RtpSenderEgress::SendPacket` sees a packet after it has waited in the pacer, with the
collector as it is *now*. If the second path has closed meanwhile, the packet is
attributed to path 1 and its number replaced by the RTP sequence number, in the fields
of the packet only: the extensions are already written. The fields then decide which
history the packet is stored in or released from, and under which number.
-/

namespace MpWebRtc

variable (c : Collector)

/-- With the second path closed, the RTP sequence number replaces the path number of a
packet that takes part in transport feedback. -/
def egressNumber (p : Packet) : Packet :=
  if p.transportSequenceNumber.isSome ∧ ¬ c.mpIsSecondPathOpen ∧
      p.subflowSeq ≠ p.sequenceNumber ∧ p.sequenceNumber > 0 then
    { p with subflowSeq := p.sequenceNumber }
  else p

/-- With the second path closed every packet belongs to path 1. -/
def egressPath (p : Packet) : Packet :=
  if c.mpIsSecondPathOpen then p else { p with subflowId := 1 }

variable (p : Packet)

/-- The path of a packet in the feedback records. -/
def feedbackPath : Nat := if p.subflowId = 4 ∨ p.subflowId ≤ 1 then 1 else 2

/-- `AddPacketToTransportFeedback`: redundant packets are recorded for path 1 as well. -/
def feedbackRecords (cfg : SenderConfig) (c : Collector) (p : Packet) : List PacketSendInfo :=
  match p.transportSequenceNumber, p.mpTransportSequenceNumber with
  | some _, some mpTransportSequenceNumber =>
      let record := fun pathid =>
        (⟨cfg.ssrc, p.sequenceNumber, mpTransportSequenceNumber, p.subflowSeq, pathid⟩ :
          PacketSendInfo)
      (if c.redScheduling then [record 1] else []) ++ [record (feedbackPath p)]
  | _, _ => []

/-- `is_media`. -/
def Packet.isMedia : Bool :=
  decide (p.packetType = some .kAudio) || decide (p.packetType = some .kVideo)

/-- The history a media packet is stored in. -/
def storagePath (p : Packet) : Nat :=
  if c.redScheduling ∨ p.subflowId ≤ 1 then 1 else 2

/-- The history in which a retransmitted packet is marked as sent. -/
def releasePath (p : Packet) : Nat :=
  if c.redScheduling ∨ p.subflowId ≤ 1 ∨ p.subflowId = 3 then 1 else 2

/-- The packet as it is stored or released. -/
def egressPacket (p : Packet) : Packet := egressPath c (egressNumber c p)

@[simp] theorem egressNumber_subflowId : (egressNumber c p).subflowId = p.subflowId := by
  unfold egressNumber
  split <;> rfl

@[simp] theorem egressNumber_packetType : (egressNumber c p).packetType = p.packetType := by
  unfold egressNumber
  split <;> rfl

@[simp] theorem egressNumber_retransmittedSequenceNumber :
    (egressNumber c p).retransmittedSequenceNumber = p.retransmittedSequenceNumber := by
  unfold egressNumber
  split <;> rfl

@[simp] theorem egressPacket_packetType : (egressPacket c p).packetType = p.packetType := by
  unfold egressPacket egressPath
  split <;> simp

@[simp] theorem egressPacket_allowRetransmission :
    (egressPacket c p).allowRetransmission = p.allowRetransmission := by
  unfold egressPacket egressPath egressNumber
  split_ifs <;> rfl

@[simp] theorem egressPacket_isMedia : (egressPacket c p).isMedia = p.isMedia := by
  simp [Packet.isMedia]

@[simp] theorem egressPacket_retransmittedSequenceNumber :
    (egressPacket c p).retransmittedSequenceNumber = p.retransmittedSequenceNumber := by
  unfold egressPacket egressPath
  split <;> simp

@[simp] theorem egressPacket_subflowSeq :
    (egressPacket c p).subflowSeq = (egressNumber c p).subflowSeq := by
  unfold egressPacket egressPath
  split <;> rfl

theorem egressPacket_subflowId :
    (egressPacket c p).subflowId = if c.mpIsSecondPathOpen then p.subflowId else 1 := by
  unfold egressPacket egressPath
  split <;> simp

/-- The extensions are those of the packet that was queued. -/
theorem egressPacket_extensions :
    (egressPacket c p).sandy = p.sandy ∧ (egressPacket c p).mpFlowSeqNum = p.mpFlowSeqNum := by
  unfold egressPacket egressPath egressNumber
  split_ifs <;> exact ⟨rfl, rfl⟩

end MpWebRtc
