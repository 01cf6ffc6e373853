import TradeLedger.Store.Database

/-! The database in a file. A file consists of pages, in which trees of pages hold the tables and
records hold the rows. -/
namespace TradeLedger.Store.File

/-! ## Records

A record lists first a code for each of its values, which tells the value's kind and length, and
then the bytes of the values. Numbers have their most significant byte first. -/

-- Powers mean the same under every import.
attribute [local instance (high)] instPowNat

/-- The number that bytes write. -/
def natural (bytes : List UInt8) : Nat :=
  bytes.foldl (fun n byte => n * 256 + byte.toNat) 0

/-- The whole number with these lowest bits, so many bytes of them, in two's complement. -/
def signed (size n : Nat) : Int :=
  if 2 * n < 256 ^ size then n else (n : Int) - 256 ^ size

/-- The highest of 64 bits. -/
def signBit : Nat := 2 ^ (63 : Nat)

/-- The binary number whose sign and word these 64 bits are. -/
def binary64 (bits : Nat) : Binary64 :=
  if bits % signBit ≤ Binary64.infinityWord then .ofWord (signBit ≤ bits) (bits % signBit)
  else .nan

/-- The number of variable length at the start of the bytes, and the bytes after it. Up to
eight bytes that have their highest bit set give seven bits each. The byte after them gives
seven bits as well, but eight if it is the ninth. -/
def variableLength (bytes : List UInt8) : Option (Nat × List UInt8) :=
  let leading := (bytes.take 8).takeWhile (128 ≤ ·)
  let high := leading.foldl (fun n byte => n * 128 + (byte.toNat - 128)) 0
  match bytes.drop leading.length with
  | [] => none
  | last :: rest =>
    some (high * (if leading.length = 8 then 256 else 128) + last.toNat, rest)

theorem length_of_variableLength {bytes rest : List UInt8} {n : Nat}
    (reads : variableLength bytes = some (n, rest)) : rest.length < bytes.length := by
  unfold variableLength at reads
  dsimp only at reads
  split at reads
  · cases reads
  · next _ _ dropped =>
    cases reads
    have size := congrArg List.length dropped
    simp only [List.length_drop, List.length_cons] at size
    omega

/-- The numbers of variable length that fill the bytes. -/
def variableLengths (bytes : List UInt8) : Option (List Nat) :=
  match bytes with
  | [] => some []
  | byte :: rest =>
    match reads : variableLength (byte :: rest) with
    | none => none
    | some (n, rest) =>
      have := length_of_variableLength reads
      (variableLengths rest).map (n :: ·)
termination_by bytes.length
decreasing_by exact this

/-- How many bytes a value with this code has. -/
def valueSize (code : Nat) : Nat :=
  match code with
  | 0 | 1 | 2 | 3 | 4 => code
  | 5 => 6
  | 6 | 7 => 8
  | 8 | 9 => 0
  | _ => (code - 12) / 2

/-- The value with this code and these bytes. A value of bytes that are no text has none,
since the ledger's tables do not use it. -/
def value? (code : Nat) (bytes : List UInt8) : Option Value :=
  match code with
  | 0 => some .null
  | 1 | 2 | 3 | 4 | 5 | 6 => some (.integer (signed (valueSize code) (natural bytes)))
  | 7 => some (.real (binary64 (natural bytes)))
  | 8 => some (.integer 0)
  | 9 => some (.integer 1)
  | _ =>
    if 13 ≤ code ∧ code % 2 = 1 then (String.fromUTF8? ⟨bytes.toArray⟩).map .text else none

/-- The values with these codes, one after the other in the bytes. -/
def valuesOf? : List Nat → List UInt8 → Option (List Value)
  | [], _ => some []
  | code :: codes, bytes => do
    let here := bytes.take (valueSize code)
    if here.length = valueSize code then
      return (← value? code here) :: (← valuesOf? codes (bytes.drop (valueSize code)))
    else none

/-- The values of a record. Its first number is the length of the list of codes, that
number included. -/
def recordValues? (record : List UInt8) : Option (List Value) := do
  let (codesEnd, rest) ← variableLength record
  let codes ← variableLengths (rest.take (codesEnd - (record.length - rest.length)))
  valuesOf? codes (record.drop codesEnd)

end TradeLedger.Store.File

namespace TradeLedger.Store

/-! ## Pages

Pages of one size follow each other and are numbered from one. A table is a tree of pages whose
leaves hold the rows in the order of their numbers; a row that is too long for its leaf goes on in
a chain of pages. -/

/-- The bytes of a file in pages. -/
structure File where
  bytes : ByteArray
  pageSize : Nat
  /-- How many bytes of a page are used. -/
  usable : Nat

namespace File

/-- How a file begins. -/
def signature : List UInt8 := "SQLite format 3\x00".toUTF8.toList

/-- The length of the file's own header, which precedes that of the first page. -/
def headerSize : Nat := 100

/-- The bytes from one position on. -/
def bytesOf (bytes : ByteArray) (start count : Nat) : List UInt8 :=
  (bytes.extract start (start + count)).toList

/-- The file with these bytes, if its header is that of a database whose texts are in
UTF-8. -/
def ofBytes? (bytes : ByteArray) : Option File :=
  let size := natural (bytesOf bytes 16 2)
  let pageSize := if size = 1 then 65536 else size
  let unused := natural (bytesOf bytes 20 1)
  if headerSize ≤ bytes.size ∧ bytesOf bytes 0 16 = signature ∧ 480 + unused ≤ pageSize ∧
      natural (bytesOf bytes 56 4) = 1 then
    some ⟨bytes, pageSize, pageSize - unused⟩
  else none

/-- So many bytes from one position on, if the file has them. -/
def slice? (file : File) (start count : Nat) : Option (List UInt8) :=
  if start + count ≤ file.bytes.size then some (bytesOf file.bytes start count) else none

/-- The number in so many bytes from one position on. -/
def number? (file : File) (start count : Nat) : Option Nat :=
  (file.slice? start count).map natural

/-- How many pages the file has. -/
def pageCount (file : File) : Nat := file.bytes.size / file.pageSize

/-- Where a page begins. -/
def startOf (file : File) (page : Nat) : Nat := (page - 1) * file.pageSize

/-! ## Rows -/

/-- How many bytes of a record of this size stand in the leaf itself. -/
def sizeInLeaf (file : File) (size : Nat) : Nat :=
  let most := file.usable - 35
  let least := (file.usable - 12) * 32 / 255 - 23
  let filling := least + (size - least) % (file.usable - 4)
  if size ≤ most then size else if filling ≤ most then filling else least

/-- So many bytes in a chain of at most `fuel` pages. Each page begins with the number of
the next one. -/
def chained? (file : File) (fuel page count : Nat) : Option (List UInt8) :=
  if count = 0 then some []
  else
    match fuel with
    | 0 => none
    | fuel + 1 => do
      let next ← file.number? (file.startOf page) 4
      let here ← file.slice? (file.startOf page + 4) (min count (file.usable - 4))
      return here ++ (← file.chained? fuel next (count - here.length))

/-- The row at a position: its number and its values. The size of its record and the number
stand before the record. -/
def rowAt? (file : File) (position : Nat) : Option (Int × List Value) := do
  let ahead := bytesOf file.bytes position 18
  let (size, rest) ← variableLength ahead
  let (id, rest) ← variableLength rest
  let start := position + (ahead.length - rest.length)
  let inLeaf := file.sizeInLeaf size
  let record ← file.slice? start inLeaf
  let values ←
    if size = inLeaf then recordValues? record
    else do
      let next ← file.number? (start + inLeaf) 4
      recordValues? (record ++ (← file.chained? file.pageCount next (size - inLeaf)))
  return (signed 8 id, values)

/-! ## Trees -/

/-- What a page of a tree holds. -/
inductive Node where
  /-- Rows at these positions. -/
  | leaf (positions : List Nat)
  /-- The trees below these pages. -/
  | branch (pages : List Nat)

/-- The positions that a list of `count` entries gives, relative to the page. -/
def positions? (file : File) (pageStart listStart count : Nat) : Option (List Nat) :=
  (List.range count).mapM fun i =>
    (file.number? (listStart + 2 * i) 2).map (pageStart + ·)

/-- The node in a page. -/
def node? (file : File) (page : Nat) : Option Node := do
  let start := file.startOf page
  let header := if page = 1 then start + headerSize else start
  let kind ← file.number? header 1
  let count ← file.number? (header + 3) 2
  match kind with
  | 13 => return .leaf (← file.positions? start (header + 8) count)
  | 5 =>
    let positions ← file.positions? start (header + 12) count
    let pages ← positions.mapM fun position => file.number? position 4
    return .branch (pages ++ [← file.number? (header + 8) 4])
  | _ => none

/-- The rows in the trees below some pages, if there are at most `fuel` pages in them. -/
def rowsBelow? (file : File) (fuel : Nat) (pages : List Nat) :
    Option (List (Int × List Value)) :=
  match fuel, pages with
  | _, [] => some []
  | 0, _ :: _ => none
  | fuel + 1, page :: pages => do
    match ← file.node? page with
    | .leaf positions =>
      return (← positions.mapM file.rowAt?) ++ (← file.rowsBelow? fuel pages)
    | .branch children => file.rowsBelow? fuel (children ++ pages)

/-- The rows of the table whose tree has its root in this page. -/
def rows? (file : File) (root : Nat) : Option (List (Int × List Value)) :=
  file.rowsBelow? file.pageCount [root]

/-- The root of a table, if the file has the table. The first page is the root of a table
that lists all others by kind, name, name of the table they belong to, and root. -/
def root? (file : File) (table : String) : Option (Option Nat) := do
  let listed ← file.rows? 1
  return listed.findSome? fun (_, values) =>
    match values with
    | .text "table" :: .text name :: _ :: .integer root :: _ =>
      if name = table then some root.toNat else none
    | _ => none

end File

/-! ## Tables -/

namespace File

/-- The row of stored values that belong to these columns in turn. -/
def fill {ρ : Type} (blank : ρ) (set : ρ → String → Value → Except Error ρ)
    (columns : List String) (values : List Value) : Except Error ρ :=
  (columns.zip values).foldlM (fun row (column, value) => set row column value) blank

/-- A table of the file, without rows if the file does not have it. The first value of a
stored row is a place for its number, which stands before the row. -/
def table {ρ : Type} (file : File) (name : String) (blank : ρ)
    (set : ρ → String → Value → Except Error ρ) (columns : List String) :
    Except Error (Table ρ) := do
  match file.root? name with
  | none => .error .malformed
  | some none => return ∅
  | some (some root) =>
    match file.rows? root with
    | none => .error .malformed
    | some rows =>
      rows.foldrM (fun (id, values) table => do
        return table.set id (← fill blank set columns (values.drop 1))) ∅

end File

/-- The database in the bytes of a file; an empty file is an empty database. -/
def Database.ofBytes (bytes : ByteArray) : Except Error Database := do
  if bytes.isEmpty then return ∅
  match File.ofBytes? bytes with
  | none => .error .notADatabase
  | some file => return {
      lines := ← file.table LineRow.table .blank LineRow.set LineRow.columns
      positions := ← file.table PositionRow.table .blank PositionRow.set PositionRow.columns
      groups := ← file.table GroupRow.table .blank GroupRow.set GroupRow.columns
      journal := ← file.table JournalRow.table .blank JournalRow.set JournalRow.columns }

end TradeLedger.Store
