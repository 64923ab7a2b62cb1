import MpWebRtc.Sender.PacerConsistency

/-!
# The size of the pacer's queue

`SetIncludeOverhead` is called once for each stream, and every call counts the overheads of the
packets in the queue again. What the queue does never depends on its size, so it is as consistent
as before but for that number.
-/

namespace MpWebRtc.Pacing

namespace RoundRobinPacketQueue

variable {q r : RoundRobinPacketQueue}

def sized (q : RoundRobinPacketQueue) (size : Int) : RoundRobinPacketQueue :=
  { q with size := size }

/-- Consistent but for the size. -/
def Arranged (q : RoundRobinPacketQueue) : Prop := ∃ size, (q.sized size).Consistent

/-- Whatever the size, the operation fails or changes the rest in the same way. -/
def IgnoresSize (operation : RoundRobinPacketQueue → Option RoundRobinPacketQueue) : Prop :=
  ∀ q size, ∃ next, operation (q.sized size) = (operation q).map (·.sized next)

namespace IgnoresSize

variable {operation second : RoundRobinPacketQueue → Option RoundRobinPacketQueue}

theorem bind (ignores : IgnoresSize operation) (ignores' : IgnoresSize second) :
    IgnoresSize fun q => (operation q).bind second := by
  intro q size
  obtain ⟨middle, same⟩ := ignores q size
  cases first : operation q with
  | none => exact ⟨0, by simp [same, first]⟩
  | some r =>
      obtain ⟨next, same'⟩ := ignores' r middle
      exact ⟨next, by simp [same, first, same']⟩

theorem map (ignores : IgnoresSize operation)
    {change : RoundRobinPacketQueue → RoundRobinPacketQueue}
    (changes : ∀ q size, ∃ next, change (q.sized size) = (change q).sized next) :
    IgnoresSize fun q => (operation q).map change := by
  intro q size
  obtain ⟨middle, same⟩ := ignores q size
  cases first : operation q with
  | none => exact ⟨0, by simp [same, first]⟩
  | some r =>
      obtain ⟨next, same'⟩ := changes r middle
      exact ⟨next, by simp [same, first, same']⟩

/-- What is said of the queue with another size holds of the queue. -/
theorem exists_of (ignores : IgnoresSize operation) {size : Int}
    {holds : RoundRobinPacketQueue → Prop}
    (spec : ∃ r, operation (q.sized size) = some r ∧ holds r) :
    ∃ r next, operation q = some r ∧ holds (r.sized next) := by
  obtain ⟨next, same⟩ := ignores q size
  obtain ⟨r, made, held⟩ := spec
  rw [same] at made
  obtain ⟨r, made', rfl⟩ := Option.map_eq_some_iff.mp made
  exact ⟨r, next, made', held⟩

theorem updateQueueTime (now : Int) : IgnoresSize fun q => q.updateQueueTime now := by
  intro q size
  refine ⟨size, ?_⟩
  unfold RoundRobinPacketQueue.updateQueueTime sized
  dsimp only
  split_ifs <;> rfl

theorem pushQueued (p : QueuedPacket) : IgnoresSize fun q => q.pushQueued p := by
  intro q size
  have scheduled : (q.sized size).scheduleFor (q.streamOf p.ssrc) p.priority =
      q.scheduleFor (q.streamOf p.ssrc) p.priority := rfl
  have stream : (q.sized size).streamOf p.ssrc = q.streamOf p.ssrc := rfl
  unfold RoundRobinPacketQueue.pushQueued
  dsimp only
  rw [stream, scheduled]
  cases q.scheduleFor (q.streamOf p.ssrc) p.priority with
  | none => exact ⟨0, rfl⟩
  | some scheduled =>
      dsimp only [Option.bind_some]
      unfold enter
      cases p.enqueueTimeIt with
      | none => exact ⟨size, rfl⟩
      | some time =>
          obtain ⟨next, same⟩ := updateQueueTime p.enqueueTime
            { q with streamPriorities := scheduled.2 } size
          dsimp only at same ⊢
          rw [show ({ q.sized size with streamPriorities := scheduled.2 } :
            RoundRobinPacketQueue) = sized { q with streamPriorities := scheduled.2 } size from
              rfl, same]
          cases RoundRobinPacketQueue.updateQueueTime { q with streamPriorities := scheduled.2 }
              p.enqueueTime with
          | none => exact ⟨0, rfl⟩
          | some r => exact ⟨next + r.packetSize (p.subtractPauseTime r.pauseTimeSum), rfl⟩

theorem promote : IgnoresSize maybePromoteSinglePacketToNormalQueue := by
  intro q size
  unfold maybePromoteSinglePacketToNormalQueue
  have slot : (q.sized size).singlePacketQueue = q.singlePacketQueue := rfl
  rw [slot]
  cases q.singlePacketQueue with
  | none => exact ⟨size, rfl⟩
  | some p => exact (pushQueued p).map (fun _ size => ⟨size, rfl⟩) q size

theorem push (priority time : Int) (order : Nat) (packet : Packet) :
    IgnoresSize fun q => q.push priority time order packet := by
  intro q size
  unfold RoundRobinPacketQueue.push
  have count : (q.sized size).sizePackets = q.sizePackets := rfl
  dsimp only
  rw [count]
  by_cases empty : q.sizePackets = 0
  · rw [if_pos empty, if_pos empty]
    refine (updateQueueTime time).map (fun r size => ?_) q size
    exact ⟨size + r.packetSize ⟨priority, time, order, none, packet⟩, rfl⟩
  · rw [if_neg empty, if_neg empty]
    refine promote.bind (fun r size => ?_) q size
    exact pushQueued ⟨priority, time, order, some time, packet⟩
      { r with enqueueTimes := r.enqueueTimes.orderedInsert (· < ·) time } size

theorem setPauseState (paused : Bool) (now : Int) :
    IgnoresSize fun q => q.setPauseState paused now := by
  intro q size
  unfold RoundRobinPacketQueue.setPauseState
  have was : (q.sized size).paused = q.paused := rfl
  dsimp only
  rw [was]
  by_cases same : q.paused = paused
  · rw [if_pos same, if_pos same]
    exact ⟨size, rfl⟩
  · rw [if_neg same, if_neg same]
    exact (updateQueueTime now).map (fun _ size => ⟨size, rfl⟩) q size

theorem setIncludeOverhead : IgnoresSize RoundRobinPacketQueue.setIncludeOverhead :=
  promote.map fun _ _ => ⟨_, rfl⟩

theorem setTransportOverhead (overhead : Int) :
    IgnoresSize fun q => q.setTransportOverhead overhead := by
  refine promote.map fun r size => ?_
  by_cases included : r.includeOverhead = true
  · exact ⟨_, by simp only [sized, included, if_true]; rfl⟩
  · exact ⟨_, by simp only [sized, included]; rfl⟩

end IgnoresSize

/-- A packet leaves a queue that is arranged. -/
def Left (q : RoundRobinPacketQueue) (packet : Packet) (r : RoundRobinPacketQueue) : Prop :=
  ∃ size next, Popped (q.sized size) packet (r.sized next)

theorem Arranged.pop (arranged : q.Arranged) (waiting : q.sizePackets ≠ 0) :
    ∃ packet r, q.pop = some (packet, r) ∧ Left q packet r := by
  obtain ⟨size, consistent⟩ := arranged
  obtain ⟨packet, r, popped, left⟩ := pop_spec consistent waiting
  have same : ∃ next, (q.sized size).pop =
      q.pop.map fun result => (result.1, result.2.sized next) := by
    unfold RoundRobinPacketQueue.pop
    have sameSlot : (q.sized size).singlePacketQueue = q.singlePacketQueue := rfl
    rw [sameSlot]
    cases q.singlePacketQueue with
    | some p => exact ⟨0, rfl⟩
    | none =>
        dsimp only
        unfold popNormal
        have highest : (q.sized size).getHighestPriorityStream = q.getHighestPriorityStream := rfl
        rw [highest]
        cases q.getHighestPriorityStream with
        | none => exact ⟨0, rfl⟩
        | some found =>
            refine ⟨size - q.packetSize found.2, ?_⟩
            dsimp only [Option.bind_some]
            cases found.2.enqueueTimeIt with
            | none => rfl
            | some time =>
                dsimp only [Option.bind_some]
                rw [apply_ite (Option.map _)]
                refine if_congr Iff.rfl rfl ?_
                rw [apply_ite (Option.map _)]
                exact if_congr Iff.rfl rfl rfl
  obtain ⟨next, same⟩ := same
  rw [same] at popped
  obtain ⟨⟨packet', r'⟩, made, isPair⟩ := Option.map_eq_some_iff.mp popped
  obtain ⟨rfl, rfl⟩ := Prod.mk.inj isPair
  exact ⟨packet', r', made, size, next, left⟩

/-- Overheads that are included again are counted again. -/
theorem Arranged.setIncludeOverhead (arranged : q.Arranged) :
    ∃ r size next, q.setIncludeOverhead = some r ∧ Refreshed (q.sized size) (r.sized next) ∧
      r.timeLastUpdated = q.timeLastUpdated := by
  obtain ⟨size, consistent⟩ := arranged
  by_cases included : q.includeOverhead = true
  · have spec : ∃ r, (q.sized size).maybePromoteSinglePacketToNormalQueue = some r ∧
        Refreshed (q.sized size) r ∧ r.timeLastUpdated = q.timeLastUpdated ∧
          r.includeOverhead = true := by
      obtain ⟨promoted, moved, agree, -, same, rest⟩ := promote_spec consistent
      exact ⟨promoted, moved, ⟨agree, same⟩, by rw [rest]; rfl, by rw [rest]; exact included⟩
    obtain ⟨r, next, moved, refreshed, clock, already⟩ := IgnoresSize.promote.exists_of spec
    unfold RoundRobinPacketQueue.setIncludeOverhead
    rw [moved, Option.map_some]
    refine ⟨_, size, next, rfl, ?_, clock⟩
    have same : r.includeOverhead = true := already
    have agree : { r with includeOverhead := true }.sized next = r.sized next := by
      rw [← same]
    exact agree ▸ refreshed
  · obtain ⟨r, next, made, refreshed, clock, -⟩ := IgnoresSize.setIncludeOverhead.exists_of
      (setIncludeOverhead_spec consistent (eq_false_of_ne_true included))
    exact ⟨r, size, next, made, refreshed, clock⟩

end RoundRobinPacketQueue

end MpWebRtc.Pacing
