import Courier.Json.Writer
import Courier.Mark

/-!
Responses, and the headers that let pages of other sites send requests.
-/

namespace Courier.Http

structure Response where
  status : Nat
  contentType : String := ""
  headers : List (String × String) := []
  body : String := ""

namespace Response

def json (status : Nat) (j : Json) : Response :=
  { status, contentType := "application/json", body := j.render ++ "\n" }

def plain (status : Nat) (text : String) : Response :=
  { status, contentType := "text/plain; charset=utf-8", body := text }

/-- An error and, if there is one, the word for its reason. -/
def failure (status : Nat) (reason : String) (f : Fault) : Response :=
  json status (.object (("error", .text f.message) ::
    if reason = "" then [] else [("reason", .text reason)]))

/-- Adds headers in front. -/
def withHeaders (hs : List (String × String)) (r : Response) : Response :=
  { r with headers := hs ++ r.headers }

def header? (r : Response) (name : String) : Option String :=
  (r.headers.find? fun h => h.1 = name).map Prod.snd

end Response

/-- What other sites may do: the methods and the headers they may send. -/
structure Sharing where
  methods : String
  headers : String

namespace Sharing

def responseHeaders (c : Sharing) : List (String × String) :=
  [("Access-Control-Allow-Origin", "*"), ("Access-Control-Allow-Methods", c.methods),
    ("Access-Control-Allow-Headers", c.headers)]

/-- Answers the question whether a request may be sent, and passes every other request on. -/
def serve (c : Sharing) (method : String) (next : Response) : Response :=
  (if method = "OPTIONS" then { status := 200 } else next).withHeaders c.responseHeaders

end Sharing
end Courier.Http
