import MpWebRtc.Rtcp.CompoundReceiver

/-!
# Source descriptions

`Sdes::Parse` moves a pointer through chunks of items. Every byte it looks at is read under a
check here. It stays inside the payload, and what it stores has the length that `Create` writes.
A chunk without a name is passed over, and a list of named sources is read back from what
`Create` writes for it.
-/

namespace MpWebRtc

open Math.Memory Math.Wire

/-- What must not happen while parsing. -/
inductive ParseFault
  | outOfBounds (index : Nat)
  | endless
  deriving DecidableEq

variable (packet : List UInt8)

/-- Read one byte. -/
def readByte (index : Nat) : Except ParseFault UInt8 :=
  match packet[index]? with
  | none => .error (.outOfBounds index)
  | some byte => .ok byte

/-- Read a number of some bytes. -/
def readNumber (index width : Nat) : Except ParseFault Nat :=
  if index + width ≤ packet.length then .ok (readBigEndian ((packet.drop index).take width))
  else .error (.outOfBounds (index + width - 1))

/-- Read some bytes. -/
def readText (packet : List UInt8) (index width : Nat) : Except ParseFault (List UInt8) :=
  if index + width ≤ packet.length then .ok ((packet.drop index).take width)
  else .error (.outOfBounds (index + width - 1))

section Reads

variable {packet : List UInt8} {start index : Nat}

theorem readByte_of_lt (inside : start + index < packet.length) :
    readByte packet (start + index) = .ok ((packet.drop start).getD index 0) := by
  rw [readByte, List.getElem?_eq_getElem inside, List.getD_eq_getElem?_getD, List.getElem?_drop,
    List.getElem?_eq_getElem inside]
  rfl

theorem readByte_start (inside : start < packet.length) :
    readByte packet start = .ok ((packet.drop start).getD 0 0) :=
  readByte_of_lt (show start + 0 < packet.length from inside)

end Reads

/-- `ChunkSize`. -/
def chunkSize (chunk : Chunk) : Nat :=
  let chunkPayloadSize := 4 + 1 + 1 + chunk.cname.length
  chunkPayloadSize + (4 - chunkPayloadSize % 4)

/-- `rtcp::Sdes`, without the path. -/
structure Sdes where
  chunks : List Chunk := []
  blockLength : Nat := kHeaderLength

namespace Sdes

def kTerminatorTag : UInt8 := 0
def kCnameTag : UInt8 := 1

/-- The loop over the items of a chunk, with the name if there was one: where the items end, or
none if `Parse` gives up. -/
def readItems (payload : List UInt8) (lookingAt : Nat) (cname : Option (List UInt8)) :
    Except ParseFault (Option (Nat × Option (List UInt8))) :=
  match readByte payload lookingAt with
  | .error fault => .error fault
  | .ok itemType =>
      if itemType = kTerminatorTag then .ok (some (lookingAt + 1, cname))
      else if payload.length ≤ lookingAt + 1 then .ok none
      else
        match readByte payload (lookingAt + 1) with
        | .error fault => .error fault
        | .ok itemLength =>
            if payload.length < lookingAt + 2 + itemLength.toNat + 1 then .ok none
            else if itemType = kCnameTag then
              if cname.isSome then .ok none
              else
                match readText payload (lookingAt + 2) itemLength.toNat with
                | .error fault => .error fault
                | .ok text => readItems payload (lookingAt + 2 + itemLength.toNat) (some text)
            else readItems payload (lookingAt + 2 + itemLength.toNat) cname
termination_by payload.length - lookingAt

/-- The loop over the chunks. A chunk without a name lowers the number of chunks instead of
being counted. -/
def readChunks (payload : List UInt8) : (numberOfChunks lookingAt : Nat) → (sdes : Sdes) →
    Except ParseFault (Option Sdes)
  | 0, _, sdes => .ok (some sdes)
  | numberOfChunks + 1, lookingAt, sdes =>
      if payload.length < lookingAt + 8 then .ok none
      else do
        let ssrc ← readNumber payload lookingAt 4
        match ← readItems payload (lookingAt + 4) none with
        | none => return none
        | some (next, cname) =>
            let aligned := next + (payload.length - next) % 4
            match cname with
            | none => readChunks payload numberOfChunks aligned sdes
            | some cname =>
                let chunk : Chunk := ⟨UInt32.ofNat ssrc, cname⟩
                readChunks payload numberOfChunks aligned
                  ⟨sdes.chunks ++ [chunk], sdes.blockLength + chunkSize chunk⟩

/-- `Sdes::Parse`: what is stored then, and the result. -/
def parse (sdes : Sdes) (packet : CommonHeader) : Except ParseFault (Sdes × Bool) := do
  match ← readChunks packet.payload packet.fmt 0 {} with
  | none => return (sdes, false)
  | some parsed => return (parsed, true)

/-- `AddCName`. -/
def addCName (sdes : Sdes) (chunk : Chunk) : Sdes :=
  if kMaxNumberOfChunks ≤ sdes.chunks.length then sdes
  else ⟨sdes.chunks ++ [chunk], sdes.blockLength + chunkSize chunk⟩

/-- What `Create` writes. -/
def create (sdes : Sdes) (pathid : Int32) : List UInt8 :=
  createHeader sdes.chunks.length 202 ((sdes.blockLength - kHeaderLength) / 4) false pathid ++
    sdes.chunks.flatMap Chunk.create

section Reading

variable {payload : List UInt8} {lookingAt : Nat} {cname : Option (List UInt8)}

section

variable (inside : lookingAt < payload.length)
include inside

theorem readByte_inside : ∃ byte, readByte payload lookingAt = .ok byte :=
  ⟨_, readByte_start inside⟩

theorem readByte_ok {fault : ParseFault}
    (failed : readByte payload lookingAt = .error fault) : False := by
  obtain ⟨byte, read⟩ := readByte_inside inside
  rw [read] at failed
  cases failed

/-- The items of a chunk are read inside the payload. -/
theorem readItems_spec :
    ∃ result, readItems payload lookingAt cname = .ok result ∧
      ∀ next ∈ result, lookingAt < next.1 ∧ next.1 ≤ payload.length := by
  fun_induction readItems payload lookingAt cname with
  | case1 lookingAt cname fault failed => exact (readByte_ok inside failed).elim
  | case2 lookingAt cname read =>
      refine ⟨_, rfl, fun next same => ?_⟩
      obtain rfl := Option.some.inj same
      exact ⟨Nat.lt_succ_self _, inside⟩
  | case3 lookingAt cname itemType read other short => exact ⟨none, rfl, nofun⟩
  | case4 lookingAt cname itemType read other long fault failed =>
      exact (readByte_ok (Nat.not_le.mp long) failed).elim
  | case5 lookingAt cname itemType read other long itemLength length short =>
      exact ⟨none, rfl, nofun⟩
  | case6 lookingAt cname long itemLength length fits second read other =>
      exact ⟨none, rfl, nofun⟩
  | case7 lookingAt cname long itemLength length fits first fault failed read other =>
      rw [readText, if_pos (by omega)] at failed
      cases failed
  | case8 lookingAt cname long itemLength length fits first text named read other ih =>
      obtain ⟨result, ended, bounds⟩ := ih (by omega)
      refine ⟨result, ended, fun next member => ?_⟩
      have bound := bounds next member
      omega
  | case9 lookingAt cname itemType read other long itemLength length fits unnamed ih =>
      obtain ⟨result, ended, bounds⟩ := ih (by omega)
      refine ⟨result, ended, fun next member => ?_⟩
      have bound := bounds next member
      omega

end

theorem chunkSize_eq (chunk : Chunk) :
    chunkSize chunk = 6 + chunk.cname.length + (4 - (6 + chunk.cname.length) % 4) :=
  rfl

theorem length_create (chunk : Chunk) : chunk.create.length = chunkSize chunk := by
  simp only [Chunk.create, List.length_append, List.length_replicate, length_wordBytes,
    List.length_cons, List.length_nil]
  rfl

/-- The block length is what `Create` writes. -/
def Measured (sdes : Sdes) : Prop :=
  sdes.blockLength = kHeaderLength + (sdes.chunks.flatMap Chunk.create).length

theorem Measured.append {sdes : Sdes} (measured : sdes.Measured) (chunk : Chunk) :
    Measured ⟨sdes.chunks ++ [chunk], sdes.blockLength + chunkSize chunk⟩ := by
  unfold Measured at measured ⊢
  dsimp only
  rw [List.flatMap_append, List.length_append, List.flatMap_singleton, length_create, measured,
    Nat.add_assoc]

/-- The chunks are read inside the payload, and what is stored has its length. -/
theorem readChunks_spec {numberOfChunks : Nat} {sdes : Sdes} (within : lookingAt ≤ payload.length)
    (measured : sdes.Measured) :
    ∃ result, readChunks payload numberOfChunks lookingAt sdes = .ok result ∧
      ∀ parsed ∈ result, parsed.Measured := by
  induction numberOfChunks generalizing lookingAt sdes with
  | zero =>
      refine ⟨some sdes, rfl, fun parsed same => ?_⟩
      obtain rfl := Option.some.inj same
      exact measured
  | succ numberOfChunks ih =>
      unfold readChunks
      split
      · exact ⟨none, rfl, nofun⟩
      · rename_i enough
        have source : readNumber payload lookingAt 4 =
            .ok (readBigEndian ((payload.drop lookingAt).take 4)) := if_pos (by omega)
        obtain ⟨result, read, bounds⟩ := @readItems_spec payload (lookingAt + 4) none (by omega)
        rw [source, read]
        cases result with
        | none => exact ⟨none, rfl, nofun⟩
        | some found =>
            obtain ⟨next, cname⟩ := found
            have bound := (bounds _ rfl).2
            dsimp only at bound
            have inside : next + (payload.length - next) % 4 ≤ payload.length := by omega
            cases cname with
            | none => exact ih inside measured
            | some cname => exact ih inside (measured.append _)

theorem parse_spec (sdes : Sdes) (packet : CommonHeader) :
    ∃ parsed done, sdes.parse packet = .ok (parsed, done) ∧ (done = false → parsed = sdes) ∧
      (done = true → parsed.Measured) := by
  have empty : Measured {} := rfl
  obtain ⟨result, read, measured⟩ :=
    @readChunks_spec packet.payload 0 packet.fmt {} (Nat.zero_le _) empty
  unfold parse
  rw [read]
  cases result with
  | none => exact ⟨sdes, false, rfl, fun _ => rfl, nofun⟩
  | some parsed => exact ⟨parsed, true, rfl, nofun, fun _ => measured parsed rfl⟩

end Reading

section RoundTrip

variable {payload earlier later : List UInt8}

theorem readByte_append {index : Nat} (position : index = earlier.length) (byte : UInt8) :
    readByte (earlier ++ byte :: later) index = .ok byte := by
  rw [readByte, position, List.getElem?_append_right (Nat.le_refl _), Nat.sub_self,
    List.getElem?_cons_zero]

/-- One chunk as it is written is read back, up to where the zeros of the padding start. -/
theorem readItems_chunk {chunk : Chunk} (short : chunk.cname.length ≤ 255)
    (shape : payload = earlier ++ ([1, UInt8.ofNat chunk.cname.length] ++ (chunk.cname ++
      0 :: later))) :
    readItems payload earlier.length none =
      .ok (some (earlier.length + 2 + chunk.cname.length + 1, some chunk.cname)) := by
  have size : (UInt8.ofNat chunk.cname.length).toNat = chunk.cname.length := by
    rw [UInt8.toNat_ofNat']
    omega
  have total : payload.length = earlier.length + (2 + (chunk.cname.length + (later.length + 1))) := by
    rw [shape]
    simp only [List.length_append, List.length_cons, List.length_nil]
  have tag : readByte payload earlier.length = .ok kCnameTag := by
    rw [shape]
    exact readByte_append rfl _
  have length : readByte payload (earlier.length + 1) =
      .ok (UInt8.ofNat chunk.cname.length) := by
    rw [shape, List.cons_append, List.append_cons]
    exact readByte_append (by rw [List.length_append, List.length_singleton]) _
  have front : payload = (earlier ++ [1, UInt8.ofNat chunk.cname.length]) ++ (chunk.cname ++
      0 :: later) := by
    rw [shape, List.append_assoc]
  have start : earlier.length + 2 = (earlier ++ [1, UInt8.ofNat chunk.cname.length]).length := by
    rw [List.length_append]
    rfl
  have text : readText payload (earlier.length + 2) chunk.cname.length = .ok chunk.cname := by
    rw [readText, if_pos (by omega), front, take_drop_append start]
  have ended : readByte payload (earlier.length + 2 + chunk.cname.length) = .ok kTerminatorTag := by
    rw [front, ← List.append_assoc]
    exact readByte_append (by rw [List.length_append, start]) _
  rw [readItems, tag]
  dsimp only
  rw [if_neg (by decide), if_neg (by omega), length]
  dsimp only
  rw [size, if_neg (by omega), if_pos rfl, if_neg (by decide), text]
  dsimp only
  rw [readItems, ended]
  dsimp only
  rw [if_pos rfl]

/-- The padding ends a chunk where the next one starts. -/
theorem readChunks_create {chunks : List Chunk} (short : ∀ chunk ∈ chunks, chunk.cname.length ≤ 255)
    (shape : payload = earlier ++ chunks.flatMap Chunk.create) (sdes : Sdes) :
    ∃ blockLength, readChunks payload chunks.length earlier.length sdes =
      .ok (some ⟨sdes.chunks ++ chunks, blockLength⟩) := by
  induction chunks generalizing earlier sdes with
  | nil =>
      refine ⟨sdes.blockLength, ?_⟩
      rw [List.length_nil, readChunks, List.append_nil]
  | cons chunk chunks ih =>
      obtain ⟨small, others⟩ := List.forall_mem_cons.mp short
      have rest : 4 ∣ (chunks.flatMap Chunk.create).length := by
        refine dvd_length_flatMap (fun chunk => ?_) chunks
        rw [length_create, chunkSize_eq]
        omega
      have total : payload.length =
          earlier.length + (chunkSize chunk + (chunks.flatMap Chunk.create).length) := by
        rw [shape, List.flatMap_cons, List.length_append, List.length_append, length_create]
      have size := chunkSize_eq chunk
      have source : readNumber payload earlier.length 4 = .ok chunk.ssrc.toNat := by
        have small := chunk.ssrc.toNat_lt
        rw [readNumber, if_pos (by omega), shape, List.flatMap_cons, Chunk.create]
        simp only [List.append_assoc]
        rw [← length_wordBytes chunk.ssrc, take_drop_append rfl, wordBytes,
          readBigEndian_writeBigEndian, Nat.mod_eq_of_lt (by omega)]
      have padding : List.replicate (4 - (6 + chunk.cname.length) % 4) (0 : UInt8) =
          0 :: List.replicate (4 - (6 + chunk.cname.length) % 4 - 1) 0 := by
        rw [← List.replicate_succ]
        congr 1
        omega
      have items : readItems payload (earlier.length + 4) none =
          .ok (some (earlier.length + 4 + 2 + chunk.cname.length + 1, some chunk.cname)) := by
        have place : earlier.length + 4 = (earlier ++ wordBytes chunk.ssrc).length := by
          rw [List.length_append, length_wordBytes]
        rw [place]
        refine @readItems_chunk payload _ (List.replicate (4 - (6 + chunk.cname.length) % 4 - 1) 0 ++
          chunks.flatMap Chunk.create) chunk small ?_
        rw [shape, List.flatMap_cons, Chunk.create, padding]
        simp only [List.append_assoc, List.cons_append]
      have next : earlier.length + 4 + 2 + chunk.cname.length + 1 +
          (payload.length - (earlier.length + 4 + 2 + chunk.cname.length + 1)) % 4 =
            (earlier ++ chunk.create).length := by
        rw [List.length_append, length_create]
        omega
      obtain ⟨blockLength, done⟩ := @ih (earlier ++ chunk.create) others
        (by rw [shape, List.flatMap_cons, List.append_assoc])
        ⟨sdes.chunks ++ [chunk], sdes.blockLength + chunkSize chunk⟩
      refine ⟨blockLength, ?_⟩
      rw [List.length_cons, readChunks, if_neg (by omega), source, items]
      change readChunks payload chunks.length (_ + _) ⟨sdes.chunks ++ [⟨UInt32.ofNat _, _⟩], _⟩ = _
      rw [next, UInt32.ofNat_toNat, done, List.append_assoc]
      rfl

variable {chunks : List Chunk}

theorem foldl_addCName {sdes : Sdes} (measured : sdes.Measured)
    (few : sdes.chunks.length + chunks.length ≤ kMaxNumberOfChunks) :
    (chunks.foldl addCName sdes).chunks = sdes.chunks ++ chunks ∧
      (chunks.foldl addCName sdes).Measured := by
  induction chunks generalizing sdes with
  | nil => exact ⟨(List.append_nil _).symm, measured⟩
  | cons chunk chunks ih =>
      rw [List.length_cons] at few
      have added : sdes.addCName chunk =
          ⟨sdes.chunks ++ [chunk], sdes.blockLength + chunkSize chunk⟩ := if_neg (by omega)
      rw [List.foldl_cons, added]
      obtain ⟨all, whole⟩ := ih (measured.append chunk)
        (by rw [List.length_append, List.length_singleton]; omega)
      refine ⟨?_, whole⟩
      rw [all, List.append_assoc]
      rfl

theorem length_flatMap_create_le (short : ∀ chunk ∈ chunks, chunk.cname.length ≤ 255) :
    (chunks.flatMap Chunk.create).length ≤ chunks.length * 265 := by
  induction chunks with
  | nil => exact Nat.le_refl _
  | cons chunk chunks ih =>
      obtain ⟨small, others⟩ := List.forall_mem_cons.mp short
      have rest := ih others
      have size := chunkSize_eq chunk
      rw [List.flatMap_cons, List.length_append, length_create, List.length_cons]
      omega

/-- What `Create` writes is one packet. -/
theorem parse_create {sdes : Sdes} (measured : sdes.Measured)
    (few : sdes.chunks.length ≤ kMaxNumberOfChunks)
    (short : ∀ chunk ∈ sdes.chunks, chunk.cname.length ≤ 255) (pathid : Int32) :
    CommonHeader.parse (sdes.create pathid) =
      some ⟨202, sdes.chunks.length, 0, sdes.chunks.flatMap Chunk.create, pathid, []⟩ := by
  have whole : 4 ∣ (sdes.chunks.flatMap Chunk.create).length := by
    refine dvd_length_flatMap (fun chunk => ?_) sdes.chunks
    rw [length_create, chunkSize_eq]
    omega
  have bound := length_flatMap_create_le short
  have words : sdes.blockLength - kHeaderLength = (sdes.chunks.flatMap Chunk.create).length := by
    rw [measured, Nat.add_sub_cancel_left]
  unfold kMaxNumberOfChunks at few
  have format : sdes.chunks.length < 32 := by omega
  have fits : (sdes.chunks.flatMap Chunk.create).length / 4 < 65536 := by omega
  have exact : (sdes.chunks.flatMap Chunk.create).length =
      (sdes.chunks.flatMap Chunk.create).length / 4 * 4 := by omega
  have parsed := @parse_createHeader _ 202 _ pathid format (by decide) fits _ exact []
  rw [List.append_nil] at parsed
  rw [create, words, parsed]

/-- **The codec of source descriptions.** Parsing any payload reads inside it and ends; if it
fails, what was stored stays, and else the block length is what is written. A list of named
sources is read back from what is written for it. -/
theorem sdes_codec :
    (∀ (sdes : Sdes) (packet : CommonHeader), ∃ parsed done,
      sdes.parse packet = .ok (parsed, done) ∧ (done = false → parsed = sdes) ∧
      (done = true → ∀ pathid, (parsed.create pathid).length = parsed.blockLength)) ∧
    ∀ (chunks : List Chunk) (pathid : Int32) (sdes : Sdes), chunks.length ≤ kMaxNumberOfChunks →
      (∀ chunk ∈ chunks, chunk.cname.length ≤ 255) → ∃ header parsed,
        CommonHeader.parse ((chunks.foldl addCName {}).create pathid) = some header ∧
        sdes.parse header = .ok (parsed, true) ∧ parsed.chunks = chunks := by
  constructor
  · intro sdes packet
    obtain ⟨parsed, done, read, kept, measured⟩ := parse_spec sdes packet
    refine ⟨parsed, done, read, kept, fun success pathid => ?_⟩
    rw [create, List.length_append, length_createHeader, measured success]
  · intro chunks pathid sdes few short
    have empty : Measured {} := rfl
    obtain ⟨all, measured⟩ := foldl_addCName empty ((Nat.zero_add _).trans_le few)
    change (chunks.foldl addCName {}).chunks = chunks at all
    have parsed := parse_create measured (by rw [all]; exact few) (by rw [all]; exact short) pathid
    rw [all] at parsed
    obtain ⟨blockLength, read⟩ := @readChunks_create _ [] chunks short rfl {}
    change readChunks (chunks.flatMap Chunk.create) chunks.length 0 {} = _ at read
    refine ⟨_, ⟨chunks, blockLength⟩, parsed, ?_, rfl⟩
    unfold parse
    dsimp only
    rw [read]
    rfl

/-- A name of no bytes among others. -/
theorem sdes_codec_two_names :
    ∃ header parsed,
      CommonHeader.parse (([⟨7, [97, 98]⟩, ⟨8, []⟩].foldl addCName {}).create 2) = some header ∧
      parse ⟨[⟨1, [99]⟩], 16⟩ header = .ok (parsed, true) ∧
      parsed.chunks = [⟨7, [97, 98]⟩, ⟨8, []⟩] :=
  sdes_codec.2 [⟨7, [97, 98]⟩, ⟨8, []⟩] 2 ⟨[⟨1, [99]⟩], 16⟩ (by decide) (by decide)

end RoundTrip

end Sdes

end MpWebRtc
