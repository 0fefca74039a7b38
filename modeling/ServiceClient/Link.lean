import ServiceClient.Failure
import ServiceClient.Json.Reader

/-!
The link to a server: the requests sent over it, the replies still to come, and the number of the
next call. When no reply is left the server answers with a null result.
-/

namespace ServiceClient

inductive Reply
  | body (text : String) (status : Int)
  | failure (reason : String)

structure HttpRequest where
  verb : String
  url : String
  body : Option String

structure Link where
  nextId : Int
  replies : List Reply
  sent : List HttpRequest

namespace Link

/-- A link on which nothing has been sent. -/
def start (nextId : Int) (replies : List Reply) : Link := ⟨nextId, replies, []⟩

def defaultReply : Reply := .body "\x7b\"result\": null\x7d" 200

/-- Allocates a call number. -/
def takeId (link : Link) : Int × Link := (link.nextId, { link with nextId := link.nextId + 1 })

/-- What a reply says to a request. -/
def readReply (request : HttpRequest) : Reply → Except Failure Value
  | .failure reason => .error (.exchange (.failed request.verb request.url reason))
  | .body text status =>
    match Json.parse text with
    | .ok v => .ok v
    | .error _ => .error (.exchange (.notJson request.verb request.url status))

/-- Sends a request and waits for its reply. -/
def exchange (link : Link) (request : HttpRequest) : Except Failure Value × Link :=
  let reply := link.replies.headD defaultReply
  (readReply request reply,
    { link with replies := link.replies.tail, sent := link.sent ++ [request] })

def get (link : Link) (url : String) : Except Failure Value × Link :=
  link.exchange ⟨"GET", url, none⟩

def post (link : Link) (url body : String) : Except Failure Value × Link :=
  link.exchange ⟨"POST", url, some body⟩

end Link

/-- The headers every request has. -/
def standardHeaders : List (String × Value) :=
  [("Content-Type", .string "application/json"), ("Cache-Control", .string "no-cache")]

/-- The headers of a request to which some are added; an added one replaces a standard one. -/
def requestHeaders (added : List (String × Value)) : List (String × Value) :=
  entriesOfPairs (standardHeaders ++ added)

end ServiceClient
