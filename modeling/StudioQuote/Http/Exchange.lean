import StudioQuote.Http.Encoding
import StudioQuote.Http.Endpoint
import StudioQuote.RequestId

/-!
# Requests and responses

A request is served by finding its endpoint, reading the command and carrying it out. A
body that cannot be read is the only problem reported. A response carries the id of its
request, unless the failure is one that clients are told nothing about; an answer that
cannot be sent is such a failure.
-/

namespace StudioQuote

namespace Http

structure Request where
  method : String
  target : String
  body : Option String := none
  requestId : Option String := none

inductive Content where
  | json (v : Json)
  | text (s : String)

structure Response where
  status : Nat
  requestId : Option String
  content : Content

inductive BodyFault where
  | undecodable
  | malformed
  deriving DecidableEq

namespace Request

/-- The body as JSON; an empty one is none. -/
def json (n : Json.Nesting) (r : Request) : Except BodyFault (Option Json) :=
  match r.body.filter (· ≠ "") with
  | none => .ok none
  | some text =>
    match bodyChars? text with
    | none => .error .undecodable
    | some cs =>
      match Json.readChars (.loose n) cs with
      | .ok v => .ok (some v)
      | .error .malformed => .error .malformed
      | .error _ => .error .undecodable

def id (r : Request) (c : Conditions) : String :=
  RequestId.choose c.freshId r.requestId

def bodyFor (n : Json.Nesting) (r : Request) (e : Endpoint) : Except BodyFault (Option Json) :=
  if e.takesBody then r.json n else .ok none

end Request

namespace Response

def detail (status : Nat) (id : String) (v : Json) : Response :=
  ⟨status, some id, .json (.obj [("detail", v)])⟩

def message (status : Nat) (id : String) (text : String) : Response :=
  detail status id (.str text)

/-- The failure of which clients are told nothing. -/
def internalError : Response :=
  ⟨500, none, .text "Internal Server Error"⟩

/-- Problems are reported with the values at fault, which have to be sent. -/
def ofProblems (id : String) (ps : List Problem) : Response :=
  if ps.all Problem.isShowable then detail 422 id (Json.ofList Problem.toJson ps)
  else internalError

def ofBodyFault (id : String) : BodyFault → Response
  | .undecodable => message 400 id "There was an error parsing the body"
  | .malformed => ofProblems id [⟨[.key "body"], .invalidJson, true⟩]

def ofFailure (id : String) : Failure → Response
  | .editRefused e => message 422 id (RequestId.annotate id e.message)
  | .draftInvalid defects =>
    ⟨422, some id, .json (DraftRefusal.toJson
      ⟨RequestId.annotate id "Form builder draft is invalid", defects.map DraftDefect.message⟩)⟩
  | .draftMissing shop form =>
    message 404 id (RequestId.annotate id (Failure.draftMissing shop form).message)
  | .publishConflict form fault =>
    message 409 id (RequestId.annotate id (Failure.publishConflict form fault).message)
  | .storage task fault =>
    message 503 id (RequestId.annotate id
      ("Database operation failed: " ++ (Failure.storage task fault).message))
  | .unreadable _ | .shopMissing | .integerTooWide | .textUnencodable _ | .draftUnencodable _
  | .integerTooLong | .ruleUnreadable _ | .amount _ => internalError

/-- A reply with null in the place of numbers that are not finite, if it can be sent. -/
def reply? (id : String) (v : Json) : Option Response :=
  if v.finitePart.isShowable then some ⟨200, some id, .json v.finitePart⟩ else none

/-- The response to a request that only asks for what comes before the content. -/
def withoutContent (r : Response) : Response :=
  { r with content := .text "" }

/-- The response where no endpoint is on the path: a path that only has slashes too many
is redirected. -/
def noEndpoint (id : String) (segments : List String) : Response :=
  if (Endpoint.onPath (withoutTrailingSlashes segments)).isEmpty then
    message 404 id "Not Found"
  else ⟨307, some id, .text ""⟩

end Response

def execute (id : String) (command : Command) (db : Database) : Response × Database :=
  match command with
  | .reply v => ((Response.reply? id v).getD .internalError, db)
  | .fail e => (.ofFailure id e, db)
  | .refuseMismatch =>
    (.message 400 id (RequestId.annotate id "shootingCategoryId does not match the URL"), db)
  | .perform op =>
    match op.run db with
    | (.error e, after) => (.ofFailure id e, after)
    | (.ok a, after) => ((Response.reply? id a.toJson).getD .internalError, after)

def serveAt (c : Conditions) (r : Request) (e : Endpoint) (parameters : Json.Members)
    (db : Database) : Response × Database :=
  match r.bodyFor c.bodyNesting e with
  | .error fault => (.ofBodyFault (r.id c) fault, db)
  | .ok body =>
    match e.command c parameters body with
    | .failed ps => (.ofProblems (r.id c) ps, db)
    | .ok command => execute (r.id c) command db

def serveFully (c : Conditions) (r : Request) (db : Database) : Response × Database :=
  let path := segments r.target
  match Endpoint.onPath path with
  | [] => (.noEndpoint (r.id c) path, db)
  | endpoints =>
    match endpoints.find? fun e => Method.ofName? r.method = some e.1.method with
    | none => (.message 405 (r.id c) "Method Not Allowed", db)
    | some (e, parameters) => serveAt c r e parameters db

def serve (c : Conditions) (r : Request) (db : Database) : Response × Database :=
  let (response, db) := serveFully c r db
  (if Text.upper r.method = "HEAD" then response.withoutContent else response, db)

def serveAll (c : Conditions) : List Request → Database → List Response × Database
  | [], db => ([], db)
  | r :: rs, db =>
    let (response, db) := serve c r db
    let (responses, db) := serveAll c rs db
    (response :: responses, db)

end Http

end StudioQuote
