import StudioQuote.Json.Reader

/-!
# Paths

The target of a request is a path, in front of which a scheme and an authority may stand
and which a query or a fragment may follow. Dot segments are resolved first. Escapes are
decoded then, once by the client and once more by the server, and the path is cut at its
slashes at last, so that an encoded slash separates like a plain one. A route is a list of
fixed parts and of parameters.
-/

namespace StudioQuote

namespace Http

/-- The parts between marks, of which there is one more than there are marks. -/
def cutAt (mark : Char) : List Char → List (List Char)
  | [] => [[]]
  | c :: rest => if c = mark then [] :: cutAt mark rest else (cutAt mark rest).modifyHead (c :: ·)

def isSchemeChar (c : Char) : Bool :=
  c.isAlphanum || c == '+' || c == '.' || c == '-'

/-- A scheme, which may be empty, and what follows its colon. -/
def cutScheme (target : List Char) : List Char × List Char :=
  let scheme := target.takeWhile isSchemeChar
  match target.dropWhile isSchemeChar with
  | ':' :: rest => if scheme.head?.all Char.isAlpha then (scheme, rest) else ([], target)
  | _ => ([], target)

/-- An authority, which may be empty, and what follows it. -/
def cutAuthority : List Char → List Char × List Char
  | '/' :: '/' :: rest => (rest.takeWhile (· != '/'), rest.dropWhile (· != '/'))
  | cs => ([], cs)

/-- Whether an authority names a host besides the user and the port. -/
def hasHost (authority : List Char) : Bool :=
  ((cutAt '@' authority).getLast?.getD []).head?.any (· != ':')

/-- The path of a target. With a scheme and a host it is taken as it is; else it stands below
the root, whatever its slashes in front. -/
def pathOf (target : List Char) : List Char :=
  let (scheme, rest) := cutScheme (target.takeWhile fun c => c != '?' && c != '#')
  let (authority, path) := cutAuthority rest
  if scheme ≠ [] ∧ hasHost authority ∧ path ≠ [] then path
  else '/' :: path.dropWhile (· == '/')

/-- The segments before a segment and that segment: a single dot stands for nothing, and
two dots take back the segment before them, but not the empty one at the beginning. -/
def resolveDot (before : List (List Char)) (segment : List Char) : List (List Char) :=
  if segment = ['.'] then before
  else if segment = ['.', '.'] then (if before = [[]] then before else before.dropLast)
  else before ++ [segment]

def withoutDots (path : List Char) : List Char :=
  ['/'].intercalate ((cutAt '/' path).foldl resolveDot [])

/-- The bytes that a percent-encoded text denotes. A percent sign that two hexadecimal
digits do not follow stands for itself. -/
def percentDecode : List Char → List UInt8
  | [] => []
  | '%' :: a :: b :: rest =>
    match Json.hexDigit? a, Json.hexDigit? b with
    | some high, some low => UInt8.ofNat (16 * high + low) :: percentDecode rest
    | _, _ => String.utf8EncodeChar '%' ++ percentDecode (a :: b :: rest)
  | c :: rest => String.utf8EncodeChar c ++ percentDecode rest

/-- The character at the front of bytes, with the number of its bytes. -/
def charAtFront? (bytes : List UInt8) : Option (Char × Nat) :=
  [1, 2, 3, 4].findSome? fun width =>
    match (String.fromUTF8? ⟨(bytes.take width).toArray⟩).map String.toList with
    | some [c] => some (c, width)
    | _ => none

/-- The text of bytes, of which the first argument says how many to skip. A byte that
belongs to no character is shown as the replacement character. -/
def textOfBytes : Nat → List UInt8 → List Char
  | _, [] => []
  | skipped + 1, _ :: rest => textOfBytes skipped rest
  | 0, b :: rest =>
    match charAtFront? (b :: rest) with
    | some (c, width) => c :: textOfBytes (width - 1) rest
    | none => '\ufffd' :: textOfBytes 0 rest

def decoded (path : List Char) : List Char :=
  textOfBytes 0 (percentDecode path)

def segments (target : String) : List String :=
  ((cutAt '/' (decoded (decoded (withoutDots (pathOf target.toList))))).drop 1).map String.ofList

def withoutTrailingSlashes (segments : List String) : List String :=
  (segments.reverse.dropWhile (· == "")).reverse

inductive RoutePart where
  | fixed (text : String)
  | parameter (name : String)
  deriving DecidableEq

/-- The parameters of a path that takes a route. A parameter is any segment that is not
empty, and a line break may follow a fixed part that ends the path. -/
def parameters? : List RoutePart → List String → Option Json.Members
  | [], [] => some []
  | .fixed text :: parts, s :: rest =>
    if s = text ∨ (parts = [] ∧ s = text ++ "\n") then parameters? parts rest else none
  | .parameter name :: parts, s :: rest =>
    if s = "" then none
    else (parameters? parts rest).map ((name, .str s) :: ·)
  | _, _ => none

end Http

end StudioQuote
