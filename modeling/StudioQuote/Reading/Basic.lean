import StudioQuote.Json.Showable

/-!
# Reading records from JSON

A reading gives a value or the list of all problems with the input. Parts are read
independently of each other, so that two parts with problems are both reported, in the
order in which they are read. A problem names the path from the value being read and
records whether the value at fault can be shown.
-/

namespace StudioQuote

inductive PathStep where
  | key (name : String)
  | index (i : Nat)
  deriving DecidableEq

inductive ProblemKind where
  | missing
  | notAModel
  | notAnObjectBody
  | notAList
  | notADictionary
  | notText
  | brokenText
  | notAPath
  | notAnInt
  | unreadableInt
  | fractionalInt
  | oversizedInt
  | notABool
  | unreadableBool
  | notAFloat
  | notADecimal
  | unreadableDecimal
  | notFinite
  | notADate
  | unreadableDate
  | unsupportedDate
  | inexactDate
  | unknownName
  | unexpected
  | invalidJson
  deriving DecidableEq

def ProblemKind.name : ProblemKind → String
  | .missing => "missing"
  | .notAModel => "model_type"
  | .notAnObjectBody => "model_attributes_type"
  | .notAList => "list_type"
  | .notADictionary => "dict_type"
  | .notText => "string_type"
  | .brokenText => "string_unicode"
  | .notAPath => "path_type"
  | .notAnInt => "int_type"
  | .unreadableInt => "int_parsing"
  | .fractionalInt => "int_from_float"
  | .oversizedInt => "int_parsing_size"
  | .notABool => "bool_type"
  | .unreadableBool => "bool_parsing"
  | .notAFloat => "float_type"
  | .notADecimal => "decimal_type"
  | .unreadableDecimal => "decimal_parsing"
  | .notFinite => "finite_number"
  | .notADate => "date_type"
  | .unreadableDate => "date_from_datetime_parsing"
  | .unsupportedDate => "date_parsing"
  | .inexactDate => "date_from_datetime_inexact"
  | .unknownName => "enum"
  | .unexpected => "extra_forbidden"
  | .invalidJson => "json_invalid"

structure Problem where
  path : List PathStep
  kind : ProblemKind
  /-- Whether the value at fault can be shown. -/
  isShowable : Bool
  deriving DecidableEq

def Problem.of (v : Json) (kind : ProblemKind) : Problem :=
  ⟨[], kind, v.isShowable⟩

def Problem.under (step : PathStep) (p : Problem) : Problem :=
  { p with path := step :: p.path }

def PathStep.toJson : PathStep → Json
  | .key name => .str name
  | .index i => .int i

def Problem.toJson (p : Problem) : Json :=
  .obj [("loc", Json.ofList PathStep.toJson p.path), ("type", .str p.kind.name)]

inductive Reading (α : Type) where
  | ok (value : α)
  | failed (problems : List Problem)

namespace Reading

variable {α β : Type}

def problem (v : Json) (kind : ProblemKind) : Reading α :=
  .failed [.of v kind]

def map (f : α → β) : Reading α → Reading β
  | .ok a => .ok (f a)
  | .failed ps => .failed ps

/-- Both readings, with the problems of both. -/
def apply : Reading (α → β) → Reading α → Reading β
  | .ok f, .ok a => .ok (f a)
  | .ok _, .failed ps => .failed ps
  | .failed ps, .ok _ => .failed ps
  | .failed ps, .failed qs => .failed (ps ++ qs)

instance : Applicative Reading where
  pure := .ok
  map f r := r.map f
  seq f a := f.apply (a ())

@[simp] theorem map_ok (f : α → β) (a : α) : f <$> Reading.ok a = .ok (f a) := rfl

@[simp] theorem seq_ok (f : α → β) (a : α) : Reading.ok f <*> Reading.ok a = .ok (f a) := rfl

/-- The same reading of a part of a larger value. -/
def under (step : PathStep) : Reading α → Reading α
  | .ok a => .ok a
  | .failed ps => .failed (ps.map (·.under step))

@[simp] theorem under_ok (step : PathStep) (a : α) : (Reading.ok a).under step = .ok a := rfl

def getD : Reading α → α → α
  | .ok a, _ => a
  | .failed _, default => default

end Reading

abbrev Reader (α : Type) := Json → Reading α

namespace Reader

variable {α : Type}

/-- Null is no value. -/
def nullable (read : Reader α) : Reader (Option α)
  | .null => .ok none
  | v => (read v).map some

def elements (read : Reader α) : Nat → List Json → Reading (List α)
  | _, [] => .ok []
  | i, v :: rest => List.cons <$> (read v).under (.index i) <*> elements read (i + 1) rest

def list (read : Reader α) : Reader (List α)
  | .arr vs => elements read 0 vs
  | v => .problem v .notAList

def record (fields : Json.Members → Reading α) : Reader α
  | .obj ms => fields ms
  | v => .problem v .notAModel

theorem elements_map_ok {β : Type} (read : Reader α) (encode : β → Json) (value : β → α)
    (h : ∀ b, read (encode b) = .ok (value b)) (i : Nat) (bs : List β) :
    elements read i (bs.map encode) = .ok (bs.map value) := by
  induction bs generalizing i with
  | nil => rfl
  | cons b bs ih => simp [elements, h, ih]

end Reader

namespace Json.Members

variable {α : Type}

/-- A member that must be there. The value at fault for one that is not is the object. -/
def required (ms : Members) (key : String) (read : Reader α) : Reading α :=
  match ms.lookup key with
  | none => .failed [(Problem.of (.obj ms) .missing).under (.key key)]
  | some v => (read v).under (.key key)

/-- A member that may be absent. -/
def defaulted (ms : Members) (key : String) (default : α) (read : Reader α) : Reading α :=
  match ms.lookup key with
  | none => .ok default
  | some v => (read v).under (.key key)

/-- A member that may be absent or null. -/
def optional (ms : Members) (key : String) (read : Reader α) : Reading (Option α) :=
  ms.defaulted key none (Reader.nullable read)

/-- The name that counts of two names for one member: the second one when only that one
is there. -/
def nameIn (ms : Members) (first second : String) : String :=
  if (ms.lookup first).isNone && (ms.lookup second).isSome then second else first

end Json.Members

end StudioQuote
