import Isolation.Zip.Code

/-!
# Decompression

Data in the deflate format: blocks of literal bytes and of references to what came before, in words
of prefix codes.

## Main definitions

* `Zip.inflate?` — the data that was compressed
-/

namespace Isolation.Zip

/-- The bits of a byte, the least significant first. -/
def byteBits (byte : UInt8) : List Bool :=
  (List.range 8).map fun i => byte.toNat / 2 ^ i % 2 = 1

/-- A number of bits as a number, the least significant first. -/
def takeBits : Nat → List Bool → Except Stop (Nat × List Bool)
  | 0, bits => .ok (0, bits)
  | _ + 1, [] => .error .ended
  | count + 1, bit :: bits => do
    let (high, bits) ← takeBits count bits
    return (2 * high + (if bit then 1 else 0), bits)

/-- The least length and the number of further bits for each word for a length. -/
def lengthTable : List (Nat × Nat) := [
  (3, 0), (4, 0), (5, 0), (6, 0), (7, 0), (8, 0), (9, 0), (10, 0), (11, 1), (13, 1), (15, 1),
  (17, 1), (19, 2), (23, 2), (27, 2), (31, 2), (35, 3), (43, 3), (51, 3), (59, 3), (67, 4),
  (83, 4), (99, 4), (115, 4), (131, 5), (163, 5), (195, 5), (227, 5), (258, 0)]

/-- The least distance and the number of further bits for each word for a distance. -/
def distanceTable : List (Nat × Nat) := [
  (1, 0), (2, 0), (3, 0), (4, 0), (5, 1), (7, 1), (9, 2), (13, 2), (17, 3), (25, 3), (33, 4),
  (49, 4), (65, 5), (97, 5), (129, 6), (193, 6), (257, 7), (385, 7), (513, 8), (769, 8),
  (1025, 9), (1537, 9), (2049, 10), (3073, 10), (4097, 11), (6145, 11), (8193, 12), (12289, 12),
  (16385, 13), (24577, 13)]

/-- A number out of a table, with its further bits. -/
def fromTable (table : List (Nat × Nat)) (index : Nat) (bits : List Bool) :
    Except Stop (Nat × List Bool) :=
  match table[index]? with
  | none => .error .corrupt
  | some (least, count) => do
    let (more, bits) ← takeBits count bits
    return (least + more, bits)

/-- Appends what stands some distance back, byte for byte. -/
def copyBack : Nat → Nat → Array UInt8 → Array UInt8
  | 0, _, out => out
  | length + 1, distance, out =>
    copyBack length distance (out.push (out.getD (out.size - distance) 0))

/-- The rest of a block in words of two codes: the data so far, and the bits after the block. Every
word takes at least one bit, so that the fuel is enough if it is above their number. -/
def inflateWords (literals distances : Code) :
    Nat → List Bool → Array UInt8 → Array UInt8 × Except Stop (List Bool)
  | 0, _, out => (out, .error .corrupt)
  | fuel + 1, bits, out =>
    match literals.read bits with
    | .error stop => (out, .error stop)
    | .ok (symbol, bits) =>
      if symbol < 256 then inflateWords literals distances fuel bits (out.push (UInt8.ofNat symbol))
      else if symbol = 256 then (out, .ok bits)
      else
        let reference : Except Stop (Nat × Nat × List Bool) := do
          let (length, bits) ← fromTable lengthTable (symbol - 257) bits
          let (symbol, bits) ← distances.read bits
          let (distance, bits) ← fromTable distanceTable symbol bits
          if out.size < distance then .error .corrupt else .ok (length, distance, bits)
        match reference with
        | .error stop => (out, .error stop)
        | .ok (length, distance, bits) =>
          inflateWords literals distances fuel bits (copyBack length distance out)

/-- The lengths of the words of the codes that every reader knows. -/
def fixedLengths : List Nat :=
  List.replicate 144 8 ++ List.replicate 112 9 ++ List.replicate 24 7 ++ List.replicate 8 8

/-- The order in which the lengths of the words for lengths are written. -/
def lengthOrder : List Nat := [16, 17, 18, 0, 8, 7, 9, 6, 10, 5, 11, 4, 12, 3, 13, 2, 14, 1, 15]

/-- Lengths in words of a code for lengths, of which some repeat the length before or zero, up to a
total; the last come first. -/
def readLengths (code : Code) (total : Nat) :
    Nat → List Bool → List Nat → Except Stop (List Nat × List Bool)
  | 0, _, _ => .error .corrupt
  | fuel + 1, bits, found =>
    if total < found.length then .error .corrupt
    else if found.length = total then .ok (found, bits)
    else do
      let (symbol, bits) ← code.read bits
      if symbol < 16 then readLengths code total fuel bits (symbol :: found)
      else if symbol = 16 then
        match found with
        | [] => .error .corrupt
        | previous :: _ =>
          let (more, bits) ← takeBits 2 bits
          readLengths code total fuel bits (List.replicate (3 + more) previous ++ found)
      else
        let (least, count) := if symbol = 17 then (3, 3) else (11, 7)
        let (more, bits) ← takeBits count bits
        readLengths code total fuel bits (List.replicate (least + more) 0 ++ found)

/-- Three bits for each of a number of lengths. -/
def takeLengths : Nat → List Bool → Except Stop (List Nat × List Bool)
  | 0, bits => .ok ([], bits)
  | count + 1, bits => do
    let (length, bits) ← takeBits 3 bits
    let (lengths, bits) ← takeLengths count bits
    return (length :: lengths, bits)

/-- The code with given lengths of its words, which must be sound. -/
def codeOf (lengths : List Nat) : Except Stop Code :=
  match Code.ofLengths? lengths with
  | some code => .ok code
  | none => .error .corrupt

/-- The two codes at the front of a block that brings its own. -/
def readCodes (bits : List Bool) : Except Stop (Code × Code × List Bool) := do
  let (literalCount, bits) ← takeBits 5 bits
  let (distanceCount, bits) ← takeBits 5 bits
  let (lengthCount, bits) ← takeBits 4 bits
  if 29 < literalCount ∨ 29 < distanceCount then throw .corrupt
  let (written, bits) ← takeLengths (lengthCount + 4) bits
  let pairs := lengthOrder.zip written
  let lengths := (List.range 19).map fun symbol =>
    ((pairs.find? fun pair => pair.1 = symbol).map Prod.snd).getD 0
  let total := literalCount + 257 + (distanceCount + 1)
  let (found, bits) ← readLengths (← codeOf lengths) total (bits.length + 2) bits []
  -- both codes are written as one row of lengths
  let all := found.reverse
  let literals ← codeOf (all.take (literalCount + 257))
  let distances ← codeOf (all.drop (literalCount + 257))
  return (literals, distances, bits)

/-- A block of bytes as they are, after its header; it starts with a whole byte. -/
def inflateStored (bits : List Bool) (out : Array UInt8) : Array UInt8 × Except Stop (List Bool) :=
  -- whole bytes are left over, so the rest of the byte that was begun is dropped
  let bits := bits.drop (bits.length % 8)
  let header : Except Stop (Nat × List Bool) := do
    let (length, bits) ← takeBits 16 bits
    let (check, bits) ← takeBits 16 bits
    if length + check = 65535 then .ok (length, bits) else .error .corrupt
  match header with
  | .error stop => (out, .error stop)
  | .ok (length, bits) => copy length bits out
where
  /-- Appends a number of bytes. -/
  copy : Nat → List Bool → Array UInt8 → Array UInt8 × Except Stop (List Bool)
    | 0, bits, out => (out, .ok bits)
    | count + 1, bits, out =>
      match takeBits 8 bits with
      | .error stop => (out, .error stop)
      | .ok (byte, bits) => copy count bits (out.push (UInt8.ofNat byte))

/-- One block after its first bit. -/
def inflateBlock (bits : List Bool) (out : Array UInt8) : Array UInt8 × Except Stop (List Bool) :=
  match takeBits 2 bits with
  | .error stop => (out, .error stop)
  | .ok (kind, bits) =>
    let codes : Except Stop (Code × Code × List Bool) :=
      if kind = 1 then do
        return (← codeOf fixedLengths, ← codeOf (List.replicate 32 5), bits)
      else if kind = 2 then readCodes bits
      else .error .corrupt
    if kind = 0 then inflateStored bits out
    else match codes with
      | .error stop => (out, .error stop)
      | .ok (literals, distances, bits) =>
        inflateWords literals distances (bits.length + 1) bits out

/-- All blocks up to the last. Every block takes at least one bit, so that the fuel is enough if it
is above their number. -/
def inflateBlocks : Nat → List Bool → Array UInt8 → Array UInt8 × Except Stop (List Bool)
  | 0, _, out => (out, .error .corrupt)
  | _ + 1, [], out => (out, .error .ended)
  | fuel + 1, isLast :: bits, out =>
    match inflateBlock bits out with
    | (out, .error stop) => (out, .error stop)
    | (out, .ok bits) => if isLast then (out, .ok bits) else inflateBlocks fuel bits out

/-- The data that was compressed. If the compressed data ends early, what was found up to there;
none if it is not well-formed. -/
def inflate? (compressed : List UInt8) : Option (List UInt8) :=
  let bits := compressed.flatMap byteBits
  match inflateBlocks (bits.length + 1) bits #[] with
  | (_, .error .corrupt) => none
  -- data that ends early is left to the checksum
  | (out, _) => some out.toList

end Isolation.Zip
