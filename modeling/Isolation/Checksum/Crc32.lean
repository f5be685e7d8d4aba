/-!
# Cyclic redundancy checks

The 32-bit check that zip containers keep for each of their files.

## Main definitions

* `Crc32.checksum` — the check of some bytes
-/

namespace Isolation.Crc32

/-- Divides out one bit by the reflected polynomial. -/
def step (crc : UInt32) : UInt32 :=
  if crc &&& 1 = 1 then (crc >>> 1) ^^^ 0xEDB88320 else crc >>> 1

/-- Takes in one byte. -/
def update (crc : UInt32) (byte : UInt8) : UInt32 :=
  (List.range 8).foldl (fun crc _ => step crc) (crc ^^^ byte.toUInt32)

/-- The check of some bytes. -/
def checksum (bytes : List UInt8) : UInt32 :=
  bytes.foldl update 0xFFFFFFFF ^^^ 0xFFFFFFFF

end Isolation.Crc32
