import Isolation.Checksum.Crc32
import Isolation.Text.Utf8
import Isolation.Zip.Inflate

/-!
# Zip containers

A container ends with a directory of its files and a record that tells where the directory starts.
Anything may stand in front of the container and shift all places in it, and a comment may follow
the record; so the record is searched for from the end, and the directory from where the record
says on. The name of a file is text, or it is spelled in an old code page, unless an extra field
says what it is.

## Main definitions

* `Zip.Entry` — a file as the directory describes it
* `Zip.Container` — the bytes of a container with its directory
* `Zip.Name.ofRecord`, `Zip.Name.extended?` — the name of a file
* `Zip.Container.ofBytes?` — finds the directory
* `Zip.Container.read` — the data of a file
-/

namespace Isolation.Zip

open Isolation.Text

/-- The number in some bytes at an offset, the least significant byte first. -/
def number? (count offset : Nat) (bytes : List UInt8) : Option Nat :=
  let taken := (bytes.drop offset).take count
  if taken.length = count then some (taken.foldr (fun b n => b.toNat + 256 * n) 0) else none

/-- Some bytes at an offset. -/
def slice? (count offset : Nat) (bytes : List UInt8) : Option (List UInt8) :=
  let taken := (bytes.drop offset).take count
  if taken.length = count then some taken else none

/-- What a record in a container begins with. -/
def signature (kind : Nat) : Nat := 0x4b50 + 0x10000 * kind

/-- The kinds of records: before the data of a file, in the directory, and at the end. -/
def localKind : Nat := 0x0403

@[inherit_doc localKind] def directoryKind : Nat := 0x0201

@[inherit_doc localKind] def endKind : Nat := 0x0605

/-- The offsets at which records of a kind begin, in ascending order. -/
def offsetsOf (kind : Nat) : List UInt8 → Nat → List Nat
  | [], _ => []
  | b :: bytes, offset =>
    let later := offsetsOf kind bytes (offset + 1)
    if number? 4 0 (b :: bytes) = some (signature kind) then offset :: later else later

/-- How the data of a file is kept. -/
inductive Method
  | stored
  | deflated
  | other
  deriving DecidableEq, Repr

/-- A file as the directory of a container describes it. -/
structure Entry where
  name : String
  encrypted : Bool
  method : Method
  checksum : UInt32
  size : Nat
  start : Nat
  deriving DecidableEq, Repr

/-- The bytes of a container with the files in its directory, whose names differ. -/
structure Container where
  bytes : List UInt8
  entries : List Entry
  deriving DecidableEq, Repr

/-- What the record at the end says: the number of files, and where the directory starts. -/
structure EndRecord where
  offset : Nat
  sameDisk : Bool
  count : Nat
  total : Nat
  directory : Nat

/-- The record of the end at an offset. Its comment must not reach beyond the bytes. -/
def endRecord? (bytes : List UInt8) (offset : Nat) : Option EndRecord := do
  let disk ← number? 2 (offset + 4) bytes
  let directoryDisk ← number? 2 (offset + 6) bytes
  let count ← number? 2 (offset + 8) bytes
  let total ← number? 2 (offset + 10) bytes
  let directory ← number? 4 (offset + 16) bytes
  let comment ← number? 2 (offset + 20) bytes
  let _ ← slice? comment (offset + 22) bytes
  return { offset, sameDisk := disk = directoryDisk, count, total, directory }

/-- How far everything in the container is shifted by what stands in front of it: from where the
directory should start on, the first of its records up to the end is where it does start. -/
def shift? (bytes : List UInt8) (record : EndRecord) : Option Nat :=
  if record.total = 0 then some (record.offset - record.directory)
  else if record.offset ≤ record.directory then none
  else
    let span := (bytes.take record.offset).drop record.directory
    (offsetsOf directoryKind span 0).head?

/-- Where the data of a file starts, whose record is at an offset. -/
def dataStart? (bytes : List UInt8) (offset : Nat) : Option Nat := do
  let kind ← number? 4 offset bytes
  if kind = signature localKind then
    let nameLength ← number? 2 (offset + 26) bytes
    let extraLength ← number? 2 (offset + 28) bytes
    return offset + 30 + nameLength + extraLength
  else none

/-- The upper half of the code page in which names are that are not marked as text. The lower half
is ASCII. -/
def upperHalf : String :=
  "ÇüéâäàåçêëèïîìÄÅÉæÆôöòûùÿÖÜ¢£¥₧ƒ" ++
    "áíóúñÑªº¿⌐¬½¼¡«»░▒▓│┤╡╢╖╕╣║╗╝╜╛┐" ++
    "└┴┬├─┼╞╟╚╔╩╦╠═╬╧╨╤╥╙╘╒╓╫╪┘┌█▄▌▐▀" ++
    "αßΓπΣσµτΦΘΩδ∞φε∩≡±≥≤⌠⌡÷≈°∙·√ⁿ²■\u00a0"

/-- The character of a byte in the code page. -/
def charOfByte (b : UInt8) : Char :=
  if b < 0x80 then Char.ofNat b.toNat else upperHalf.toList.getD (b.toNat - 0x80) ' '

/-- The name of a file as it is kept, and what it says. -/
structure Name where
  raw : List UInt8
  text : String

/-- The name in the record of a file. -/
def Name.ofRecord (flags : Nat) (raw : List UInt8) : Name where
  raw := raw
  text := if flags / 2 ^ 11 % 2 = 1 then Utf8.decodeLossy raw
    else String.ofList (raw.map charOfByte)

/-- The kind of the fields that say a name as text. -/
def nameField : Nat := 0x7075

/-- The name that such a field says, behind a version, which may be any, and the checksum of the
name in whose place it stands. A container with a field that says anything else is damaged. -/
def Name.replaced? (name : Name) (field : List UInt8) : Option Name := do
  let checksum ← number? 4 1 field
  let raw := field.drop 5
  let text ← Utf8.decode? raw
  if checksum = (Crc32.checksum name.raw).toNat then some { raw, text } else none

/-- The name after the extra fields of a file, each of which begins with its kind and its length.
Other kinds of fields are passed over, and so is a last byte by itself. -/
def Name.extended? (name : Name) (extra : List UInt8) : Option Name :=
  if extra.length < 2 then some name
  else do
    let kind ← number? 2 0 extra
    let length ← number? 2 2 extra
    let field ← slice? length 4 extra
    let name ← if kind = nameField then name.replaced? field else some name
    name.extended? (extra.drop (4 + length))
termination_by extra.length
decreasing_by
  rw [List.length_drop]
  omega

/-- A file in the directory at an offset, and the offset after it. Its record and the start of its
data must lie in front of the directory. -/
def entry? (bytes : List UInt8) (shift start offset : Nat) : Option (Entry × Nat) := do
  let kind ← number? 4 offset bytes
  if kind = signature directoryKind then
    let flags ← number? 2 (offset + 8) bytes
    let method ← number? 2 (offset + 10) bytes
    let checksum ← number? 4 (offset + 16) bytes
    -- the size as it is kept; the size it unpacks to is not used
    let size ← number? 4 (offset + 20) bytes
    let nameLength ← number? 2 (offset + 28) bytes
    let extraLength ← number? 2 (offset + 30) bytes
    let commentLength ← number? 2 (offset + 32) bytes
    let record ← number? 4 (offset + 42) bytes
    let raw ← slice? nameLength (offset + 46) bytes
    let extra ← slice? extraLength (offset + 46 + nameLength) bytes
    let _ ← slice? commentLength (offset + 46 + nameLength + extraLength) bytes
    let name ← (Name.ofRecord flags raw).extended? extra
    -- what stands in front of the data has lengths of its own
    let data ← dataStart? bytes (record + shift)
    if start ≤ record + shift ∨ start < data then none
    else
      return ({ name := name.text, encrypted := flags % 2 = 1
                method := if method = 0 then .stored else if method = 8 then .deflated else .other
                checksum := UInt32.ofNat checksum, size, start := data },
              offset + 46 + nameLength + extraLength + commentLength)
  else none

/-- A number of files in the directory from an offset on. -/
def entriesFrom? (bytes : List UInt8) (shift start : Nat) : Nat → Nat → Option (List Entry)
  | 0, _ => some []
  | count + 1, offset => do
    let (entry, offset) ← entry? bytes shift start offset
    let entries ← entriesFrom? bytes shift start count offset
    return entry :: entries

/-- Adds a file; of two with one name the later stands in the place of the earlier. -/
def addEntry (entries : List Entry) (entry : Entry) : List Entry :=
  if entries.any fun old => old.name = entry.name then
    entries.map fun old => if old.name = entry.name then entry else old
  else entries ++ [entry]

/-- The files in the directory that a record of the end leads to. -/
def directory? (bytes : List UInt8) (record : EndRecord) : Option (List Entry) := do
  let shift ← shift? bytes record
  let start := record.directory + shift
  if record.sameDisk then
    return (← entriesFrom? bytes shift start record.count start).foldl addEntry []
  else none

namespace Container

/-- The container that some bytes are. -/
def ofBytes? (bytes : List UInt8) : Option Container :=
  -- a comment may hold what looks like a record, so one that leads nowhere is passed over
  ((offsetsOf endKind bytes 0).reverse.findSome? fun offset =>
    (endRecord? bytes offset).bind (directory? bytes)).map fun entries => { bytes, entries }

/-- The names of the files, in the order of the directory. -/
def names (container : Container) : List String := container.entries.map Entry.name

/-- The file with a name. -/
def find? (container : Container) (name : String) : Option Entry :=
  container.entries.find? fun entry => entry.name = name

end Container

/-- Why a file cannot be read: it is kept in a way that is not known, or its data is damaged. -/
inductive ReadError
  | unsupported
  | damaged
  deriving DecidableEq, Repr

/-- Whether an entry stands for a directory. -/
def Entry.isDirectory (entry : Entry) : Bool :=
  entry.name.toList.getLast? = some '/' || entry.name.toList.getLast? = some '\\'

/-- The data of a file, checked against its checksum; none if it stands for a directory. -/
def Container.read (container : Container) (entry : Entry) :
    Except ReadError (Option (List UInt8)) :=
  if entry.encrypted then .error .unsupported
  else
    let kept := (container.bytes.drop entry.start).take entry.size
    match entry.method with
    | .other => .error .unsupported
    | method =>
      if entry.isDirectory then .ok none
      else match if method = .deflated then inflate? kept else some kept with
        | none => .error .damaged
        | some data =>
          if Crc32.checksum data = entry.checksum then .ok (some data) else .error .damaged

end Isolation.Zip
