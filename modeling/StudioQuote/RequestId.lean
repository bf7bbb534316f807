/-!
# Request ids

Every request has an id: the one that its client sends, or a fresh one. Messages about
the request carry it, and log records show a dash when there is none.
-/

namespace StudioQuote

namespace RequestId

def choose (fresh : String) (sent : Option String) : String :=
  sent.getD fresh

def logged (id : String) : String :=
  if id = "" then "-" else id

def annotate (id message : String) : String :=
  if id = "" then message else "[Request ID: " ++ id ++ "] " ++ message

end RequestId

end StudioQuote
