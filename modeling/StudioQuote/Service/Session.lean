import StudioQuote.Draft.Validate
import StudioQuote.Store.Overwrite

/-!
# Sessions with the store

A session is a computation that may fail and that works on a database. What it has
written before it fails stays written, unless the writes stand in a transaction: a
transaction that fails leaves the database as it found it. A statement first needs the
database to open, then its tables, then parameters that can be stored: integers of 64 bits
and texts without halves of surrogate pairs.
-/

namespace StudioQuote

open Number

inductive Database where
  | unopenable
  | blank
  | ready (store : Store)
  deriving DecidableEq

/-- What a statement of the store is part of, where its faults are reported as such. -/
inductive StorageTask where
  | statement
  | schemaSetup
  | campaignCreation
  | formPublishing
  deriving DecidableEq

def StorageTask.report : StorageTask → String
  | .statement => ""
  | .schemaSetup => "Schema setup failed: "
  | .campaignCreation => "Failed to create campaign: "
  | .formPublishing => "Failed to publish form: "

inductive Failure where
  | unreadable (problems : List Problem)
  | editRefused (error : EditError)
  | draftInvalid (defects : List DraftDefect)
  | draftMissing (shopId shootingCategoryId : Int)
  | shopMissing
  | publishConflict (shootingCategoryId : Int) (fault : StorageFault)
  | storage (task : StorageTask) (fault : StorageFault)
  | integerTooWide
  /-- A text that is to be stored has a half of a surrogate pair in it. -/
  | textUnencodable (text : String)
  /-- A draft cannot be written because of such a text in it. -/
  | draftUnencodable (text : String)
  /-- An integer has too many digits to be written. -/
  | integerTooLong
  | ruleUnreadable (fault : Json.Fault)
  | amount (fault : AmountFault)
  deriving DecidableEq

/-- Why a text has no bytes: the first halves in it that stand alone, and where they stand. -/
def encodingMessage (text : String) : String :=
  let codes := Text.codes text.toList
  let first := codes.findIdx Text.Code.isHalf
  let halves := (codes.drop first).takeWhile Text.Code.isHalf
  "\x27utf-8\x27 codec can\x27t encode " ++
    (match halves with
    | [half] =>
      "character \x27" ++ String.ofList (Json.unitEscape half.number) ++ "\x27 in position " ++
        intText first
    | _ =>
      "characters in position " ++ intText first ++ "-" ++ intText (first + halves.length - 1)) ++
    ": surrogates not allowed"

/-- An edit that is refused, or one whose refusal cannot be put in words. -/
def Failure.ofEdit : EditError → Failure
  | .integerTooLong => .integerTooLong
  | e => .editRefused e

def Failure.message : Failure → String
  | .unreadable _ | .amount _ => ""
  | .editRefused e => e.message
  | .draftInvalid defects =>
    "Form builder validation failed:\n" ++
      "\n".intercalate (defects.map fun d => "  - " ++ d.message)
  | .draftMissing shopId shootingCategoryId =>
    "No form builder draft for shop " ++ intText shopId ++ ", shooting category " ++
      intText shootingCategoryId
  | .shopMissing => "shop_id is required to save form builder data"
  | .publishConflict shootingCategoryId fault =>
    "Shooting category " ++ intText shootingCategoryId ++
      " uses a category or item id that is already taken: " ++ fault.message
  | .storage task fault => task.report ++ fault.message
  | .integerTooWide => "Python int too large to convert to SQLite INTEGER"
  | .textUnencodable text => encodingMessage text
  | .draftUnencodable text =>
    "Error serializing to JSON: UnicodeEncodeError: " ++ encodingMessage text
  | .integerTooLong => longIntegerMessage
  | .ruleUnreadable fault => fault.message

abbrev Session := ExceptT Failure (StateM Database)

namespace Session

variable {α : Type}

/-- The store, for a statement that names the given table first. -/
def tables (task : StorageTask) (first : Table) : Session Store := do
  match ← get with
  | .unopenable => throw (.storage task .cannotOpen)
  | .blank => throw (.storage task (.noTable first))
  | .ready s => pure s

/-- Why a cell cannot be a parameter of a statement. -/
def bindFailure? : Cell → Option Failure
  | .integer n => if fitsInt64 n then none else some .integerTooWide
  | .text s => if Text.isPlain s then none else some (.textUnencodable s)
  | _ => none

/-- Binds the parameters of a statement, one after the other. -/
def bindCells (parameters : List Cell) : Session Unit :=
  match parameters.findSome? bindFailure? with
  | none => pure ()
  | some e => throw e

def bindIntegers (ns : List Int) : Session Unit :=
  bindCells (ns.map .integer)

def query (first : Table) (parameters : List Int) (f : Store → α) : Session α := do
  let s ← tables .statement first
  bindIntegers parameters
  pure (f s)

def write (task : StorageTask) (first : Table) (parameters : List Int) (f : Store → Store) :
    Session Unit := do
  let s ← tables task first
  bindIntegers parameters
  set (Database.ready (f s))

/-- A statement that writes cells of any kind and that the table may refuse. -/
def attempt (task : StorageTask) (first : Table) (parameters : List Cell)
    (f : Store → Except StorageFault (α × Store)) : Session α := do
  let s ← tables task first
  bindCells parameters
  match f s with
  | .error fault => throw (.storage task fault)
  | .ok (a, s) =>
    set (Database.ready s)
    pure a

/-- A session whose writes are undone when it fails. -/
def transaction (x : Session α) : Session α :=
  ExceptT.mk fun db =>
    match x.run db with
    | (.ok a, after) => (.ok a, after)
    | (.error e, _) => (.error e, db)

/-- A session that fails in another way, where `relabel` says so. -/
def relabelled (relabel : Failure → Failure) (x : Session α) : Session α :=
  tryCatch x fun e => throw (relabel e)

def reading (r : Reading α) : Session α :=
  match r with
  | .ok a => pure a
  | .failed ps => throw (.unreadable ps)

def edit (r : Except EditError α) : Session α :=
  match r with
  | .ok a => pure a
  | .error e => throw (.ofEdit e)

/-- What can only be computed when the integers in it can be written. -/
def writable (r : Option α) : Session α :=
  match r with
  | some a => pure a
  | none => throw .integerTooLong

end Session

end StudioQuote
