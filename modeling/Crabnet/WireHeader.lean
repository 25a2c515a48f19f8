import Crabnet.DataFrame

/-! The ten bytes that every frame begins with: magic, version, message type,
zero flags and the length of what follows. The three codecs read it byte by byte;
here is what those reads return on a header, and what they leave no choice about. -/
namespace Crabnet.WireHeader
open MachineWord SessionTypes
open DataFrame (magic u16Limit beBytes)

def commonHeader (version kind : UInt8) (bodyLength : Nat) : Bytes :=
  magic ++ (version :: kind :: be 2 0 ++ be 2 bodyLength)

@[simp] theorem headerLength (version kind bodyLength) :
    (commonHeader version kind bodyLength).length = 10 := by
  simp [commonHeader, magic]

structure Reads (datagram : Bytes) (version kind : UInt8) (bodyLength : Nat) (body : Bytes) : Prop where
  size : datagram.length = 10 + body.length
  magical : slice datagram 0 4 = magic
  version : byteAt datagram 4 = version
  kind : byteAt datagram 5 = kind
  flags : readBE (slice datagram 6 8) = 0
  declared : readBE (slice datagram 8 10) = bodyLength
  body : datagram.drop 10 = body

theorem headerReads {bodyLength : Nat} (fits : bodyLength < u16Limit) (version kind body) :
    Reads (commonHeader version kind bodyLength ++ body) version kind bodyLength body := by
  have flags : slice (commonHeader version kind bodyLength ++ body) 6 8 = be 2 0 := by
    have layout : commonHeader version kind bodyLength ++ body =
        (magic ++ [version, kind]) ++ (be 2 0 ++ (be 2 bodyLength ++ body)) := by
      simp [commonHeader]
    rw [layout]
    exact sliceField (by simp [magic]) (by simp)
  have declared : slice (commonHeader version kind bodyLength ++ body) 8 10 = be 2 bodyLength := by
    have layout : commonHeader version kind bodyLength ++ body =
        (magic ++ version :: kind :: be 2 0) ++ (be 2 bodyLength ++ body) := by
      simp [commonHeader]
    rw [layout]
    exact sliceField (by simp [magic]) (by simp)
  constructor
  · rw [List.length_append, headerLength]
  · simp [commonHeader, slice, magic]
  · simp [commonHeader, byteAt, magic]
  · simp [commonHeader, byteAt, magic]
  · rw [flags]
    exact readBeBounded (by decide)
  · rw [declared]
    exact readBeBounded fits
  · exact List.drop_left' (headerLength version kind bodyLength)

theorem headerImage {datagram : Bytes} (size : 10 ≤ datagram.length) (magical : slice datagram 0 4 = magic)
    (flags : readBE (slice datagram 6 8) = 0) :
    datagram = commonHeader (byteAt datagram 4) (byteAt datagram 5) (readBE (slice datagram 8 10)) ++
      datagram.drop 10 := by
  have flagBytes : be 2 0 = slice datagram 6 8 := by
    rw [← flags]
    exact beBytes (sliceLength (by omega))
  have lengthBytes : be 2 (readBE (slice datagram 8 10)) = slice datagram 8 10 :=
    beBytes (sliceLength (by omega))
  rw [commonHeader, flagBytes, lengthBytes, ← magical]
  conv_lhs => rw [← List.drop_zero (l := datagram)]
  rw [dropSlice datagram (show 0 ≤ 4 by omega), dropByte (show 4 < datagram.length by omega),
    dropByte (show 5 < datagram.length by omega), dropSlice datagram (show 6 ≤ 8 by omega),
    dropSlice datagram (show 8 ≤ 10 by omega)]
  simp

end Crabnet.WireHeader
