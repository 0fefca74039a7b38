import ServiceClient.Form.Html
import ServiceClient.Json.Writer
import ServiceClient.Route.Table

/-!
The explorer: pages for trying out a service from a browser. The index page has the forms of all
methods; submitting one makes the call and shows the form again, with the result or the error above
it. `Explorer.respond` answers any request along the routes of the explorer; beside its own pages
there are files at `/static/`, of which none is ever there.
-/

namespace ServiceClient

/-- The text shown for a result; null is not worth showing. -/
def renderResult : Value → Except Failure String
  | .null => .ok ""
  | v@(.object _) | v@(.list _) | v@(.bool _) => Json.write v
  | v => .ok v.plainText

/-- The places of an explorer. -/
inductive Place
  | file
  | index
  | call

structure Explorer where
  client : Client
  /-- The path of the explorer, without a slash at the end and without double slashes. -/
  root : String
  routes : List (Route Place)

/-- What a submission came to, as the page shows it. -/
inductive Verdict
  | result (text : String)
  | error (message : String)

namespace Page

def verdict : Verdict → Markup
  | .result text => .element "div" [Html.attr "class" "value"] [.text text]
  | .error message => .element "div" [Html.attr "class" "error"] [.text message]

/-- The part of a page about the call just made. -/
def report : Option (String × Verdict) → List Markup
  | none => [.text "\n    "]
  | some (method, v) =>
    [.text "\n    \n    ",
      .element "div" [Html.attr "class" "result"] [
        .text "\n        ", .element "div" [Html.attr "class" "title"] [.text method],
        .text "\n        ", verdict v, .text "\n    "],
      .text "\n    "]

/-- A page of the explorer. -/
def html (title : String) (shown : Option (String × Verdict)) (content : Markup) : Markup :=
  .element "html" [] [
    .text "\n",
    .element "head" [] [.text "\n    ", .element "title" [] [.text title], .text "\n"],
    .text "\n",
    .element "body" [] (
      [.text "\n    ", .element "h1" [] [.text title]] ++ report shown ++
        [.text "\n    ", content, .text "\n"]),
    .text "\n"]

def render (title : String) (shown : Option (String × Verdict)) (content : Markup) : String :=
  "<!DOCTYPE html>\n" ++ (html title shown content).render

end Page

/-- An answer of the explorer; only its own pages are given. -/
structure Response where
  status : Nat
  page : Option String

namespace Explorer

/-- The routes of an explorer under a root. -/
def routesBelow (root : String) : Except Misuse (List (Route Place)) := do
  return [
    ⟨← Pattern.read "/static/<path:filename>", .get, .file⟩,
    ⟨← Pattern.read (root ++ "/"), .get, .index⟩,
    ⟨← Pattern.read (root ++ "/call/<path:method>"), .post, .call⟩]

/-- The explorer of a service under an address that starts with a slash, or under none. -/
def mount (client : Client) (address : String) : Except Failure Explorer :=
  let root := trimEnd (· == '/') address.toList
  match routesBelow (String.ofList root) with
  | .ok routes => .ok { client, routes, root := String.ofList (mergeSlashes false root) }
  | .error cause => .error (.misuse cause)

/-- The address that the form of a method is posted to. -/
def actionUrl (e : Explorer) (method : String) : String :=
  percentEncode (e.root ++ "/call/" ++ method)

def title (e : Explorer) : String := e.client.serviceName.plainText

/-- The page with the forms of all methods. -/
def indexPage (e : Explorer) : String :=
  let toolkit : Toolkit (CallForms Submission) Markup Submission Value :=
    Html.toolkit [] e.actionUrl
  Page.render e.title none ((e.client.buildForms toolkit id).run CallForms.start).1

/-- The form of a method over submitted texts, and the arguments in it. -/
def callForm (e : Explorer) (m : Method) (form : Submitted) :
    Markup × Except Failure (List Value) :=
  let toolkit : Toolkit (CallForms Submission) Markup Submission Value :=
    Html.toolkit form e.actionUrl
  ((m.buildForm toolkit e.client.types id).run CallForms.start).1

/-- Makes the call that a form was submitted for. A failure that the client reports is shown on the
page. -/
def submit (e : Explorer) (name : String) (form : Submitted) (link : Link) : Response × Link :=
  match e.client.method? name with
  | none => (⟨404, none⟩, link)
  | some m =>
    let (content, args) := e.callForm m form
    let page (v : Verdict) := some (Page.render e.title (some (name, v)) content)
    let (result, link) := Submission.run e.client ⟨m, args⟩ link
    match result >>= renderResult with
    | .ok text => (⟨200, page (.result text)⟩, link)
    | .error failure =>
      match failure.isReported, failure.message? with
      | true, some message => (⟨500, page (.error message)⟩, link)
      | _, _ => (⟨500, none⟩, link)

/-- A page is asked for at an address, or a form is submitted there. -/
inductive Request
  | get (address : String)
  | post (address : String) (form : Submitted)

def Request.address : Request → String
  | get address | post address _ => address

def Request.verb : Request → Verb
  | get _ => .get
  | post .. => .post

def Request.form : Request → Submitted
  | get _ => []
  | post _ form => form

/-- Answers a request that has come to a place. A root with holes is none for the pages, which do
not know what to do with what the holes take. -/
def respondAt (e : Explorer) (place : Place) (taken : List String) (request : Request)
    (link : Link) : Response × Link :=
  match place, taken with
  | .file, _ => (⟨404, none⟩, link)
  | .index, [] => (⟨200, some e.indexPage⟩, link)
  | .call, [method] => e.submit method request.form link
  | _, _ => (⟨500, none⟩, link)

/-- Answers a request, unless its address is no address. -/
def respond (e : Explorer) (request : Request) (link : Link) :
    Except Failure (Response × Link) :=
  match requestPath request.address.toList with
  | .error cause => .error (.misuse cause)
  | .ok path =>
    match Route.arrive e.routes request.verb path with
    | .at route taken => .ok (e.respondAt route.place taken request link)
    | .redirected => .ok (⟨308, none⟩, link)
    | .wrongVerb => .ok (⟨405, none⟩, link)
    | .nowhere => .ok (⟨404, none⟩, link)
    | .unclear => .ok (⟨500, none⟩, link)

end Explorer

end ServiceClient
