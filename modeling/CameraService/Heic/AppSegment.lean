import CameraService.Heic.Compile

/-! The APP-segment path of `HeicCompositeStream`: `findAppSegmentsSize` and
`processAppSegment`. -/

namespace CameraService.Heic

abbrev Outcome := Status × InputFrame × Stream

def Outcome.bind (r : Outcome) (k : InputFrame → Stream → Outcome) : Outcome :=
  if r.1 = .ok then k r.2.1 r.2.2 else r

def Outcome.check (st : Status) (f : InputFrame) (s : Stream) (k : Unit → Outcome) : Outcome :=
  if st = .ok then k () else (st, f, s)

@[simp] theorem Outcome.bind_ok (f : InputFrame) (s : Stream) (k : InputFrame → Stream → Outcome) :
    Outcome.bind (.ok, f, s) k = k f s := rfl

theorem Outcome.bind_of_ne {r : Outcome} (h : r.1 ≠ .ok) (k : InputFrame → Stream → Outcome) :
    r.bind k = r := if_neg h

@[simp] theorem Outcome.check_ok (f : InputFrame) (s : Stream) (k : Unit → Outcome) :
    Outcome.check .ok f s k = k () := rfl

theorem Outcome.check_of_ne {st : Status} (h : st ≠ .ok) (f : InputFrame) (s : Stream)
    (k : Unit → Outcome) : Outcome.check st f s k = (st, f, s) := if_neg h

theorem Outcome.bind_assoc (r : Outcome) (g k : InputFrame → Stream → Outcome) :
    (r.bind g).bind k = r.bind fun f s => (g f s).bind k := by
  by_cases h : r.1 = .ok
  · simp only [Outcome.bind, if_pos h]
  · rw [Outcome.bind_of_ne h, Outcome.bind_of_ne h, Outcome.bind_of_ne h]

section
variable {R : InputFrame → Stream → Outcome → Prop}

theorem Outcome.bind_rel (htrans : ∀ {f s r r'}, R f s r → R r.2.1 r.2.2 r' → R f s r')
    {f : InputFrame} {s : Stream} {r : Outcome} (h : R f s r) {k : InputFrame → Stream → Outcome}
    (hk : ∀ f' s', R f' s' (k f' s')) : R f s (r.bind k) := by
  unfold Outcome.bind
  split
  · exact htrans h (hk _ _)
  · exact h

theorem Outcome.check_rel (hrefl : ∀ st f s, R f s (st, f, s)) {f : InputFrame} {s : Stream}
    {st : Status} {k : Unit → Outcome} (hk : st = .ok → R f s (k ())) :
    R f s (Outcome.check st f s k) := by
  unfold Outcome.check
  split
  · exact hk ‹_›
  · exact hrefl _ _ _

theorem Outcome.ite_rel {c : Prop} [Decidable c] {f : InputFrame} {s : Stream} {a b : Outcome}
    (ha : c → R f s a) (hb : ¬c → R f s b) : R f s (if c then a else b) := by
  split
  · exact ha ‹_›
  · exact hb ‹_›

end

def readInt32 (bytes : List UInt8) (i : Nat) : Int :=
  let u : Nat := (bytes.getD i 0).toNat + (bytes.getD (i + 1) 0).toNat * 2 ^ 8 +
    (bytes.getD (i + 2) 0).toNat * 2 ^ 16 + (bytes.getD (i + 3) 0).toNat * 2 ^ 24
  if u < 2 ^ 31 then (u : Int) else (u : Int) - 2 ^ 32

def readUInt16BE (bytes : List UInt8) (i : Nat) : Nat :=
  (bytes.getD i 0).toNat * 2 ^ 8 + (bytes.getD (i + 1) 0).toNat

def scanAppnSegments (bytes : List UInt8) (expectedSize : Nat) : Nat → Nat → Option Nat
  | 0, totalSize => some totalSize
  | fuel + 1, totalSize =>
    if totalSize < expectedSize then
      let marker := (bytes.getD (totalSize + 1) 0).toNat
      if (bytes.getD totalSize 0).toNat != 0xFF || marker ≤ 0xE1 || marker > 0xEF then none
      else scanAppnSegments bytes expectedSize fuel
        (totalSize + 2 + readUInt16BE bytes (totalSize + 2))
    else some totalSize

def findAppSegmentsSize (c : Config) (bytes : List UInt8) (maxSize : Nat) : Nat × Nat :=
  let header := sizeT (maxSize - c.cameraBlobSize)
  if readInt32 bytes header != c.jpegAppSegmentsBlobId then (0, 0)
  else
    let expectedSize := sizeT (readInt32 bytes (header + 4))
    if expectedSize = 0 || expectedSize > header then (0, 0)
    else if bytes.getD 0 0 != 0xFF || bytes.getD 1 0 != 0xE1 then (0, 0)
    else
      let app1Size := readUInt16BE bytes 2
      match scanAppnSegments bytes expectedSize expectedSize (2 + app1Size) with
      | some totalSize => if totalSize = expectedSize then (expectedSize, app1Size + 2) else (0, 0)
      | none => (0, 0)

def exifApp1Marker (newApp1Length : Nat) : List UInt8 :=
  [0x45, 0x78, 0x69, 0x66, 0xFF, 0xE1, UInt8.ofNat (newApp1Length / 2 ^ 8),
    UInt8.ofNat (newApp1Length % 2 ^ 8)]

def processAppSegment (c : Config) (o : Oracle) (frameNumber : Int) (f : InputFrame)
    (s : Stream) : Outcome :=
  let b := f.appSegmentBuffer.getD ⟨0, 0, 0, 0, []⟩
  let (appSegmentSize, app1Size) :=
    if f.exifError then (0, 0) else findAppSegmentsSize c b.bytes (b.width * b.height % 2 ^ 32)
  if !f.exifError && appSegmentSize = 0 then (.noInit, f, s)
  else if o.status (.exifInitialize frameNumber) != .ok then (.badValue, f, s)
  else if o.status (.exifSetFromMetadata frameNumber) != .ok then (.badValue, f, s)
  else if o.status (.exifSetOrientation frameNumber) != .ok then (.badValue, f, s)
  else if o.status (.exifGenerateApp1 frameNumber) != .ok then (.badValue, f, s)
  else
    let bytes := exifApp1Marker o.app1Segment.length ++ o.app1Segment ++
      (b.bytes.drop app1Size).take (appSegmentSize - app1Size)
    let s := s.logEvent (.writeSample frameNumber f.codec.trackIndex (.appSegments bytes))
    Outcome.check (o.status (.writeAppSegments frameNumber)) f s fun _ =>
      let f := { f with appSegmentWritten := true }
      if f.exifError then (.ok, f, s)
      else
        (.ok, { f with appSegmentBuffer := none },
          s.logEvent (.unlockBuffer .appSegment b.data))

end CameraService.Heic
