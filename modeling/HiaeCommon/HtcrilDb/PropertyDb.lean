/-
The property store of htcril_db.c: names and values in one table of an SQLite
database, reached by statements that are formatted into a buffer of 400 bytes.

SQLite itself is not part of the sources: `Sqlite` is any function from the
contents of the table and the text of a statement to what it does, and
`Sqlite.Documented` says what the two statements do that the store is made of.
-/
import HiaeCommon.Lib.Quoted
import HiaeCommon.Lib.Run
import Mathlib.Logic.Function.Basic

namespace HiaeCommon.HtcrilDb

/-! ## Texts -/

abbrev Text := List UInt8

/-- A string of C: no byte of it is 0. -/
structure CString where
  text : Text
  noNul : 0 ∉ text

def ascii (s : String) : Text := s.toList.map fun c => c.toNat.toUInt8

/-- `'`. -/
def quote : UInt8 := 39

/-- `TABLE_NAME`. -/
def tableName : Text := ascii "htcril_properties_table"

/-- The statement of a get, up to the name. -/
def selectHead : Text := ascii "SELECT value FROM " ++ tableName ++ ascii " WHERE property = '"

/-- The statement of a set, up to the name. -/
def insertHead : Text := ascii "INSERT OR REPLACE INTO " ++ tableName ++ ascii "(property, value) VALUES ('"

def selectSql (name : Text) : Text := selectHead ++ (name ++ ascii "'")

def insertSql (name value : Text) : Text := insertHead ++ (name ++ ascii "', '" ++ (value ++ ascii "')"))

/-- `snprintf` cuts what does not fit before the final 0. -/
def snprintf (size : Nat) (text : Text) : Text := text.take (size - 1)

def sqlSize : Nat := 400

/-! ## SQLite -/

/-- The value of each property that has one. -/
abbrev Table := Text → Option Text

/-- What `sqlite3_exec` comes to: whether it returns `SQLITE_OK`, the first column
of each row it gives the callback, and the table then. -/
structure Executed where
  ok : Bool
  rows : List Text
  table : Table

structure Sqlite where
  exec : Table → Text → Executed

/-- The two statements do what they say where the strings in them have no quote,
and a text that ends inside one of them is not a statement. -/
structure Sqlite.Documented (sq : Sqlite) : Prop where
  select : ∀ tbl name, quote ∉ name → sq.exec tbl (selectSql name) = ⟨true, (tbl name).toList, tbl⟩
  insert : ∀ tbl name value, quote ∉ name → quote ∉ value →
    sq.exec tbl (insertSql name value) = ⟨true, [], Function.update tbl name (some value)⟩
  selectCut : ∀ tbl name n, quote ∉ name → selectHead.length ≤ n → n < (selectSql name).length →
    sq.exec tbl ((selectSql name).take n) = ⟨false, [], tbl⟩
  insertCut : ∀ tbl name value n, quote ∉ name → quote ∉ value → insertHead.length ≤ n → n < (insertSql name value).length →
    sq.exec tbl ((insertSql name value).take n) = ⟨false, [], tbl⟩

/-! ## The library -/

/-- `done_init`, whether `handle` is open, and the contents of the file. -/
structure Store where
  doneInit : Bool
  handleOpen : Bool
  table : Table
  /-- The handle was used while it was not open. -/
  staleUse : Bool

/-- A process starts, and the file has no property yet. -/
def Store.initial : Store where
  doneInit := false
  handleOpen := false
  table := fun _ => none
  staleUse := false

/-- How the calls of `db_init_locked` end: the first that fails, if any. -/
inductive InitOutcome where
  | initializeFails
  | openFails
  | createFails
  | opened
  deriving DecidableEq, Repr

/-- What a function returns, and the string a get stores. -/
structure Result where
  rc : Int
  value : Option Text
  deriving DecidableEq, Repr

def dbInitLocked (s : Store) (o : InitOutcome) : Int × Store :=
  if s.doneInit then (0, s)
  else
    match o with
    | .initializeFails => (-1, s)
    -- the handle of an open that fails is not closed, and is used no more
    | .openFails => (-1, { s with handleOpen := false })
    | .createFails => (-1, { s with handleOpen := false })
    | .opened => (0, { s with handleOpen := true, doneInit := true })

variable (sq : Sqlite)

/-- `sqlite3_exec(handle, sql, ..)`. `ioError`: SQLite could not get at the file. -/
def sqlite3Exec (s : Store) (sql : Text) (ioError : Bool) : Bool × List Text × Store :=
  if ¬ s.handleOpen then (false, [], { s with staleUse := true })
  else if ioError then (false, [], s)
  else
    let r := sq.exec s.table sql
    (r.ok, r.rows, { s with table := r.table })

/-- `get_cb` is called for one row after the other. -/
def getCb (rows : List Text) : Text := rows.getLast?.getD []

def dbPropertyGetLocked (s : Store) (name : CString) (defValue : Option CString) (ioError : Bool) : Result × Store :=
  let r := sqlite3Exec sq s (snprintf sqlSize (selectSql name.text)) ioError
  if ¬ r.1 then (⟨-1, none⟩, r.2.2)
  else
    let value := getCb r.2.1
    match defValue with
    | some d => (⟨0, some (if value = [] then d.text else value)⟩, r.2.2)
    | none => (⟨0, some value⟩, r.2.2)

def dbPropertySetLocked (s : Store) (name value : CString) (ioError : Bool) : Result × Store :=
  let r := sqlite3Exec sq s (snprintf sqlSize (insertSql name.text value.text)) ioError
  if ¬ r.1 then (⟨-1, none⟩, r.2.2) else (⟨0, none⟩, r.2.2)

/-- `done_init` stays as it is. -/
def dbResetCleanupLocked (s : Store) : Result × Store :=
  if ¬ s.doneInit then (⟨0, none⟩, s)
  else if ¬ s.handleOpen then (⟨0, none⟩, { s with staleUse := true })
  else (⟨0, none⟩, { s with handleOpen := false })

/-- A call, with how what it calls outside ends. -/
inductive Call where
  | init (o : InitOutcome)
  | get (name : CString) (defValue : Option CString) (o : InitOutcome) (ioError : Bool)
  | set (name value : CString) (o : InitOutcome) (ioError : Bool)
  | resetCleanup

def Store.call (s : Store) : Call → Result × Store
  | .init o =>
    let r := dbInitLocked s o
    (⟨r.1, none⟩, r.2)
  | .get name defValue o ioError =>
    let r := dbInitLocked s o
    if r.1 = 0 then dbPropertyGetLocked sq r.2 name defValue ioError else (⟨r.1, none⟩, r.2)
  | .set name value o ioError =>
    let r := dbInitLocked s o
    if r.1 = 0 then dbPropertySetLocked sq r.2 name value ioError else (⟨r.1, none⟩, r.2)
  | .resetCleanup => dbResetCleanupLocked s

/-- A call with its result. -/
abbrev Called := Call × Result

def Store.Calls (s : Store) (c : Called) (t : Store) : Prop :=
  s.call sq c.1 = (c.2, t)

end HiaeCommon.HtcrilDb
