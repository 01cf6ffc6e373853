import TradeLedger.Text.Escaped
import TradeLedger.Text.Utf8

/-! Why the store refuses an operation, with its wording. -/
namespace TradeLedger.Store

/-- The kinds of stored values, save null. -/
inductive Kind where
  | integer
  | real
  | text
  deriving DecidableEq, Repr

/-- The name of a kind. -/
def Kind.name : Kind → String
  | .integer => "INTEGER"
  | .real => "REAL"
  | .text => "TEXT"

/-- Why the store refused an operation. -/
inductive Error where
  /-- A cell holds another kind of value than its column is read as. -/
  | mismatch (column : String) (expected found : Kind)
  /-- The table has no such column. -/
  | unknownColumn (table column : String)
  /-- A cell that must have a value was given none. -/
  | missing (table column : String)
  /-- A row number was given that is not a whole number. -/
  | invalidId
  /-- A row number was given that the table already has. -/
  | duplicateId (table : String)
  /-- No row number is left after the highest one given. -/
  | full
  /-- A query names more accounts than its statement has room for. -/
  | tooManyVariables
  /-- The file does not hold a database. -/
  | notADatabase
  /-- The file holds a database with broken pages. -/
  | malformed
  /-- The file could not be opened. -/
  | cannotOpen
  /-- The file could not be read. -/
  | cannotRead
  /-- A database without tables was opened for reading only. -/
  | readOnly
  /-- A table is missing that a part of the ledger belongs to. -/
  | missingTable (table : String)
  /-- The name in an address is not text once its percent signs are resolved. -/
  | notText (cause : Text.Utf8Error)
  /-- The address has a parameter that is not known. -/
  | unknownParameter (key : String)
  /-- A parameter of the address has a value that is not known. -/
  | unknownValue (key value : String)
  /-- The name of a file has a character that ends it early. -/
  | nulInName
  /-- A file on another machine was asked for. -/
  | foreignMachine (name : String)
  /-- The name of a file asks for a cache that is not known. -/
  | unknownCache (name : String)
  /-- The name of a file asks for a way of opening it that is not known. -/
  | unknownMode (name : String)
  /-- The name of a file asks for more than its address admits. -/
  | modeNotAllowed (name : String)
  /-- The name of a file asks for a file system that is not known. -/
  | unknownFileSystem (name : String)
  deriving DecidableEq, Repr

namespace Error

/-- What a column is read as, in the words of the message. -/
def readType : Kind → String
  | .integer => "core::option::Option<i64>"
  | .real => "core::option::Option<f64>"
  | .text => "core::option::Option<alloc::string::String>"

/-- The message of the database engine, with its code. -/
def returned (code : Nat) (text : String) : String :=
  "error returned from database: (code: " ++ toString code ++ ") " ++ text

/-- The message of a fault in an address. -/
def misconfigured (text : String) : String := "error with configuration: " ++ text

/-- The error in the words of the store. -/
def detail : Error → String
  | .mismatch column expected found =>
    "error occurred while decoding column \"" ++ column ++ "\": mismatched types; Rust type `" ++
      readType expected ++ "` (as SQL type `" ++ expected.name ++
      "`) is not compatible with SQL type `" ++ found.name ++ "`"
  | .unknownColumn table column =>
    returned 1 ("table " ++ table ++ " has no column named " ++ column)
  | .missing table column =>
    returned 1299 ("NOT NULL constraint failed: " ++ table ++ "." ++ column)
  | .invalidId => returned 20 "datatype mismatch"
  | .duplicateId table => returned 1555 ("UNIQUE constraint failed: " ++ table ++ ".id")
  | .full => returned 13 "database or disk is full"
  | .tooManyVariables => returned 1 "too many SQL variables"
  | .notADatabase => returned 26 "file is not a database"
  | .malformed => returned 11 "database disk image is malformed"
  | .cannotOpen => returned 14 "unable to open database file"
  | .cannotRead => returned 266 "disk I/O error"
  | .readOnly => returned 8 "attempt to write a readonly database"
  | .missingTable table => returned 1 ("no such table: main." ++ table)
  | .notText cause => misconfigured cause.message
  | .unknownParameter key =>
    misconfigured ("unknown query parameter `" ++ key ++ "` while parsing connection URL")
  | .unknownValue key value =>
    misconfigured ("unknown value " ++ Text.quoted value ++ " for `" ++ key ++ "`")
  | .nulInName =>
    "error communicating with database: filename passed to SQLite must not contain nul bytes"
  | .foreignMachine name => returned 1 ("invalid uri authority: " ++ name)
  | .unknownCache name => returned 1 ("no such cache mode: " ++ name)
  | .unknownMode name => returned 1 ("no such access mode: " ++ name)
  | .modeNotAllowed name => returned 3 ("access mode not allowed: " ++ name)
  | .unknownFileSystem name => returned 1 ("no such vfs: " ++ name)

/-- The wording of an error. -/
def message (error : Error) : String := "Database error: " ++ error.detail

end Error

end TradeLedger.Store
