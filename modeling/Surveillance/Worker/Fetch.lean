/-
# The Worker entrypoint

`cloudflare/src/index.ts`, and the three functions of `db.ts` it calls.  The entrypoint has no
state of its own: what it can reach is behind three bindings, the D1 database, the `DeviceHub`
namespace and the assets, so `fetch` is an action over a `World`, which holds the state the
bindings share and the calls made so far.  An exception of a binding ends the request, as an
uncaught rejection does.

Header values are bytes and become strings one unit a byte; `request.json()` and the shared token
are strings of any units.  `url` is the parsed URL, with `searchParams` decoded.

An action takes a world and gives a world, and an outcome that may be an exception: what was called
before an exception stays called.  That is `ExceptT` over `StateM`, and each route of `fetch` is
written in the order of its `await`s.

The bindings are a parameter: any state behind them, and any answers.  The results of the next
modules are for all of them, except where a database is put in place of the one binding
(`Watch.lean`) or the objects in place of the other (`Admission.lean`).

What the Worker only logs is left out, and so are the parts of a `Request` that it passes on without
looking.
-/
import Mathlib.Data.List.Infix
import Surveillance.Lib.JsString

namespace Surveillance

namespace Worker

open Json (utf16)
open JsString (latin1)

/-! ## 1. Requests and responses

A header value is a list of bytes, and a name a text whose letter case does not count. -/

/-- `URL`. -/
structure Url where
  protocol : JsString
  host : JsString
  pathname : JsString
  search : JsString
  searchParams : List (JsString × JsString)
  deriving DecidableEq

/-- `new URL(path, url)`, for a path that is only a path. -/
def Url.at (url : Url) (path : JsString) : Url :=
  { url with pathname := path, search := [], searchParams := [] }

/-- `url.toString()`. -/
def Url.href (url : Url) : JsString :=
  url.protocol ++ utf16 "//" ++ url.host ++ url.pathname ++ url.search

abbrev Headers := List (List Byte × List Byte)

def lowerByte (c : Byte) : Byte := if 0x41 ≤ c ∧ c ≤ 0x5A then c + 0x20 else c

/-- `headers.get(name)`: names match in any letter case, and the values of one name are joined. -/
def Headers.get (headers : Headers) (name : String) : Option JsString :=
  match headers.filter fun h => h.1.map lowerByte == (ascii name).map lowerByte with
  | [] => none
  | found => some (latin1 ((ascii ", ").intercalate (found.map (·.2))))

/-- A `Request`.  `body` is what `request.json()` decodes; without a body it is empty. -/
structure Request where
  method : String
  url : Url
  headers : Headers
  body : String
  deriving DecidableEq

/-- A `Response`; the body is the text before its encoding. -/
structure Response where
  status : Nat
  headers : Headers
  body : JsString
  deriving DecidableEq

/-- What an `await` can throw: a `TypeError` of the runtime, or the failure of a binding. -/
inductive JsError where
  | typeError
  | binding (code : Nat)
  deriving DecidableEq

/-- White space at the ends of a header value. -/
def isHttpSpace (c : Byte) : Bool := c == 0x20 || c == 9 || c == 10 || c == 13

/-- NUL, LF and CR: no header value has one inside. -/
def isHeaderBreak (c : Byte) : Bool := c == 0 || c == 10 || c == 13

/-- A header value as `Headers` takes it; `none` is its `TypeError`. -/
def headerValue? (s : JsString) : Option (List Byte) :=
  (JsString.byteString? s).bind fun b =>
    let value := trimBy isHttpSpace b
    if value.any isHeaderBreak then none else some value

/-- `new Response(body, { status })`. -/
def textResponse (status : Nat) (body : String) : Response :=
  ⟨status, [(ascii "content-type", ascii "text/plain;charset=UTF-8")], utf16 body⟩

/-- `Response.json(data, { status, headers })`, for the text of the data. -/
def jsonResponse (status : Nat) (headers : Headers) (text : JsString) : Response :=
  ⟨status, headers ++ [(ascii "content-type", ascii "application/json")], text⟩

/-- The text of `{ error: reason }`, after `fields`. -/
def errorText (fields reason : String) : JsString :=
  [0x7B] ++ utf16 fields ++ utf16 "\"error\":" ++ JsString.jsonQuote (utf16 reason) ++ [0x7D]

/-! ## 2. The bindings of `Env`

A statement of D1 is a constructor, with the type of its answer. -/

/-- The statements of `db.ts` that the entrypoint causes. -/
inductive Query where
  /-- `CREATE TABLE IF NOT EXISTS _meta` -/
  | createMeta
  /-- `SELECT value FROM _meta WHERE key = 'schema_version'` -/
  | schemaVersion
  /-- `CREATE TABLE IF NOT EXISTS devices` -/
  | createDevices
  /-- `INSERT OR REPLACE INTO _meta` of the schema version -/
  | putSchemaVersion
  /-- `SELECT id, online, last_seen FROM devices ORDER BY id` -/
  | listDevices
  /-- `SELECT id FROM devices WHERE id = ?1 LIMIT 1` -/
  | findDevice (id : JsString)
  deriving DecidableEq

/-- A row of `devices`. -/
structure DeviceRow where
  id : JsString
  online : Int
  lastSeen : Option JsString
  deriving DecidableEq

/-- What a statement answers. -/
def Query.Answer : Query → Type
  | .createMeta | .createDevices | .putSchemaVersion => Unit
  | .schemaVersion => Option JsString
  | .listDevices => List DeviceRow
  | .findDevice _ => Option JsString

/-- One use of a binding. -/
inductive Call where
  | d1 (query : Query)
  | hub (name : JsString) (request : Request)
  | assets (request : Request)
  deriving DecidableEq

/-- The bindings, over the state behind them. -/
structure Bindings (σ : Type) where
  d1 : (query : Query) → σ → Except JsError query.Answer × σ
  hub : (name : JsString) → Request → σ → Except JsError Response × σ
  assets : Request → σ → Except JsError Response × σ

/-- The state behind the bindings, and the calls so far. -/
structure World (σ : Type) where
  state : σ
  calls : List Call

abbrev Action (σ α : Type) := ExceptT JsError (StateM (World σ)) α

/-- One call, recorded whether it succeeds or not. -/
def Call.perform {σ α : Type} (c : Call) (run : σ → Except JsError α × σ) : Action σ α :=
  ExceptT.mk fun w => ((run w.state).1, ⟨(run w.state).2, w.calls ++ [c]⟩)

/-- What comes of an action, and the world after it. -/
def Action.exec {σ α : Type} (act : Action σ α) (w : World σ) : Except JsError α × World σ :=
  act.run.run w

section Database

variable {σ : Type} (B : Bindings σ)

def query (q : Query) : Action σ q.Answer := (Call.d1 q).perform (B.d1 q)

/-- `ensureDatabase`.  The version it reads is only logged. -/
def ensureDatabase : Action σ Unit := do
  let _ ← query B .createMeta
  let _ ← query B .schemaVersion
  let _ ← query B .createDevices
  let _ ← query B .putSchemaVersion
  return ()

/-- `listDevices`. -/
def listDevices : Action σ (List DeviceRow) := do
  ensureDatabase B
  query B .listDevices

/-- `deviceExists`. -/
def deviceExists (id : JsString) : Action σ Bool := do
  ensureDatabase B
  let row : Option JsString ← query B (.findDevice id)
  return row.isSome

end Database

/-- `JSON.stringify` of one `DeviceInfo`. -/
def deviceText (row : DeviceRow) : JsString :=
  [0x7B] ++ utf16 "\"id\":" ++ JsString.jsonQuote row.id ++ utf16 ",\"online\":" ++
    utf16 (if row.online ≠ 0 then "true" else "false") ++ utf16 ",\"lastSeen\":" ++
    JsString.jsonQuote (row.lastSeen.getD []) ++ [0x7D]

def devicesText (rows : List DeviceRow) : JsString :=
  utf16 "[" ++ (utf16 ",").intercalate (rows.map deviceText) ++ utf16 "]"

/-! ## 3. Credentials

`tokensEqual` compares digests of the UTF-8 forms, so the digest is a parameter. -/

def sessionCookie : JsString := utf16 "esp32cam_session"

def sessionMaxAge : Nat := 60 * 60 * 24 * 365

/-- What `fetch` reads of `Env` besides its bindings, and the SHA-256 of the runtime. -/
structure Env where
  sharedAuthToken : JsString
  sha256 : List Byte → List Byte

/-- `tokensEqual`. -/
def Env.tokensEqual (env : Env) (a b : JsString) : Bool :=
  env.sha256 (JsString.utf8 a) == env.sha256 (JsString.utf8 b)

/-- The loop of `getCookie` over the parts of the header. -/
def cookieLoop (name : JsString) : List JsString → Option JsString
  | [] => none
  | part :: rest =>
    match part.idxOf? 0x3D with
    | none => cookieLoop name rest
    | some eq =>
      if JsString.trim (part.take eq) = name then some (JsString.trim (part.drop (eq + 1)))
      else cookieLoop name rest

/-- `getCookie`. -/
def getCookie (request : Request) (name : JsString) : Option JsString :=
  match request.headers.get "Cookie" with
  | none => none
  | some header => if header = [] then none else cookieLoop name (header.splitOn 0x3B)

def bearer : JsString := utf16 "Bearer "

/-- `deviceAuthorized`. -/
def deviceAuthorized (env : Env) (request : Request) : Bool :=
  let authz := (request.headers.get "Authorization").getD []
  if !bearer.isPrefixOf authz then false
  else env.tokensEqual (authz.drop bearer.length) env.sharedAuthToken

/-- `viewerAuthorized`. -/
def viewerAuthorized (env : Env) (request : Request) : Bool :=
  match getCookie request sessionCookie with
  | none => false
  | some session => if session = [] then false else env.tokensEqual session env.sharedAuthToken

/-! ## 4. The login page

The page is the template of the source, cut at the one value it has. -/

/-- `url.searchParams.get(name)`. -/
def Url.param (url : Url) (name : String) : Option JsString :=
  (url.searchParams.find? fun p => p.1 == utf16 name).map (·.2)

/-- `nextFor`. -/
def nextFor (url : Url) : JsString :=
  let next := (url.param "next").getD (url.pathname ++ url.search)
  if (utf16 "/").isPrefixOf next && !(utf16 "//").isPrefixOf next then next else utf16 "/"

/-- Lines of a template; all of it is ASCII. -/
def templateText (ls : List String) : JsString :=
  latin1 ((ascii "\n").intercalate (ls.map ascii))

/-- The page up to the value of `next`. -/
def loginPageHead : JsString := templateText [
  "<!DOCTYPE html>",
  "<html lang=\"en\">",
  "<head>",
  "<meta charset=\"utf-8\">",
  "<meta name=\"viewport\" content=\"width=device-width, initial-scale=1\">",
  "<title>Sign in</title>",
  "<style>",
  "  :root \x7b color-scheme: dark; \x7d",
  "  body \x7b font-family: system-ui, sans-serif; background: #111; color: #eee; margin: 0; " ++
    "padding: 1rem; \x7d",
  "  form \x7b max-width: 320px; margin: 15vh auto 0; background: #1b1b1b; " ++
    "border: 1px solid #2a2a2a; border-radius: 8px; padding: 1.25rem; \x7d",
  "  h1 \x7b font-size: 1.2rem; margin-top: 0; \x7d",
  "  input \x7b width: 100%; box-sizing: border-box; padding: .5rem; border: 1px solid #333; " ++
    "border-radius: 6px; background: #111; color: #eee; font-size: 1rem; \x7d",
  "  button \x7b width: 100%; margin-top: .75rem; padding: .5rem; border: 0; " ++
    "border-radius: 6px; background: #357; color: #fff; " ++
    "font-size: 1rem; cursor: pointer; \x7d",
  "  #error \x7b color: #c66; font-size: .85rem; margin-top: .5rem; min-height: 1em; \x7d",
  "</style>",
  "</head>",
  "<body>",
  "<form id=\"form\">",
  "  <h1>Access token</h1>",
  "  <input id=\"token\" type=\"password\" autocomplete=\"current-password\" " ++
    "placeholder=\"token\" required>",
  "  <button type=\"submit\">Sign in</button>",
  "  <div id=\"error\"></div>",
  "</form>",
  "<script>",
  "var next = "]

/-- The page after the value of `next`. -/
def loginPageTail : JsString := templateText [
  ";",
  "document.getElementById('form').addEventListener('submit', function (ev) \x7b",
  "  ev.preventDefault();",
  "  var err = document.getElementById('error');",
  "  err.textContent = '';",
  "  fetch('/api/login', \x7b",
  "    method: 'POST',",
  "    headers: \x7b 'Content-Type': 'application/json' \x7d,",
  "    body: JSON.stringify(\x7b token: document.getElementById('token').value \x7d),",
  "  \x7d).then(function (r) \x7b",
  "    if (r.ok) \x7b location.href = next; return; \x7d",
  "    err.textContent = 'wrong token';",
  "  \x7d).catch(function () \x7b err.textContent = 'network error'; \x7d);",
  "\x7d);",
  "</script>",
  "</body>",
  "</html>"]

/-- `loginPage`. -/
def loginPage (next : JsString) : JsString :=
  loginPageHead ++ JsString.jsonQuote next ++ loginPageTail

/-- `unauthorized`. -/
def unauthorized (request : Request) : Response :=
  let wantsHtml := utf16 "text/html" <:+: (request.headers.get "Accept").getD []
  if ¬wantsHtml then jsonResponse 401 [] (errorText "" "unauthorized")
  else ⟨401, [(ascii "content-type", ascii "text/html; charset=utf-8")],
    loginPage (nextFor request.url)⟩

/-! ## 5. `POST /api/login` -/

def badRequest : Response := jsonResponse 400 [] (errorText "\"ok\":false," "bad request")

/-- The answer to the token. -/
def loggedIn (setCookie : List Byte) : Response :=
  jsonResponse 200 [(ascii "Set-Cookie", setCookie)] ([0x7B] ++ utf16 "\"ok\":true" ++ [0x7D])

/-- The `Set-Cookie` value of a login. -/
def loginCookie (url : Url) (token : JsString) : JsString :=
  sessionCookie ++ utf16 "=" ++ token ++ utf16 "; HttpOnly; SameSite=Lax; Path=/; " ++
    utf16 "Max-Age=" ++ utf16 (toString sessionMaxAge) ++
    (if url.protocol = utf16 "https:" then utf16 "; Secure" else [])

/-- The branch of `fetch` for `/api/login`.  The property read of a `null` body is outside the
`try`. -/
def login (env : Env) (request : Request) : Except JsError Response :=
  if request.method ≠ "POST" then .ok (textResponse 405 "method not allowed")
  else
    match Json.parse request.body with
    | none => .ok badRequest
    | some .null => .error .typeError
    | some body =>
      match body.field "token" with
      | some (.str token) =>
        if token = [] then .ok badRequest
        else if !env.tokensEqual token env.sharedAuthToken then
          .ok (jsonResponse 401 [] (errorText "\"ok\":false," "wrong token"))
        else
          match headerValue? (loginCookie request.url token) with
          | none => .error .typeError
          | some value => .ok (loggedIn value)
      | _ => .ok badRequest

/-! ## 6. `fetch`

The upgrades first, then the session check, then the pages: the order of the source is the order of
the branches. -/

/-- `[a-zA-Z0-9-]`. -/
def deviceIdUnit (u : UInt16) : Bool :=
  (0x61 ≤ u && u ≤ 0x7A) || (0x41 ≤ u && u ≤ 0x5A) || (0x30 ≤ u && u ≤ 0x39) || u == 0x2D

/-- `pathname.match(/^<prefix>([a-zA-Z0-9-]{1,64})$/)`, as the id it captures. -/
def matchId (pre : String) (pathname : JsString) : Option JsString :=
  if (utf16 pre).isPrefixOf pathname then
    let id := pathname.drop (utf16 pre).length
    if 1 ≤ id.length ∧ id.length ≤ 64 ∧ id.all deviceIdUnit then some id else none
  else none

/-- `toLowerCase` of a header value. -/
def lowerUnit (u : UInt16) : UInt16 :=
  if (0x41 ≤ u ∧ u ≤ 0x5A) ∨ (0xC0 ≤ u ∧ u ≤ 0xDE ∧ u ≠ 0xD7) then u + 0x20 else u

/-- `upgrade === "websocket"`. -/
def isUpgrade (request : Request) : Bool :=
  ((request.headers.get "Upgrade").getD []).map lowerUnit == utf16 "websocket"

section Routes

variable {σ : Type} (B : Bindings σ) (env : Env)

/-- `env.DEVICE_HUB.get(env.DEVICE_HUB.idFromName(id)).fetch(request)`. -/
def forward (id : JsString) (request : Request) : Action σ Response :=
  (Call.hub id request).perform (B.hub id request)

/-- `env.ASSETS.fetch(new Request(new URL(path, request.url), request))`. -/
def asset (path : String) (request : Request) : Action σ Response :=
  let req := { request with url := request.url.at (utf16 path) }
  (Call.assets req).perform (B.assets req)

/-- The WebSocket upgrades. -/
def fetchUpgrade (request : Request) : Action σ Response :=
  if request.method ≠ "GET" then return textResponse 404 "not found"
  else
    match matchId "/signaling/" request.url.pathname with
    | some id =>
      if !deviceAuthorized env request then return textResponse 401 "unauthorized"
      else forward B id request
    | none =>
      match matchId "/view-signaling/" request.url.pathname with
      | some id =>
        if !viewerAuthorized env request then return textResponse 401 "unauthorized"
        else do
          if !(← deviceExists B id) then return textResponse 404 "device not found"
          forward B id request
      | none => return textResponse 404 "not found"

/-- `Response.redirect(url, 302)`. -/
def redirect (url : Url) : Response := ⟨302, [(ascii "Location", url.href.map (·.toUInt8))], []⟩

/-- Everything below the session check. -/
def fetchPage (request : Request) : Action σ Response :=
  let pathname := request.url.pathname
  if pathname = utf16 "/api/devices" then
    if request.method ≠ "GET" then return textResponse 405 "method not allowed"
    else do
      ensureDatabase B
      return jsonResponse 200 [] (devicesText (← listDevices B))
  else if pathname = utf16 "/" then
    if request.method ≠ "GET" then return textResponse 405 "method not allowed"
    else asset B "/index.html" request
  else if pathname = utf16 "/view" ∨ pathname = utf16 "/view.html" then
    return redirect (request.url.at (utf16 "/"))
  else
    match matchId "/view/" pathname with
    | some id =>
      if request.method ≠ "GET" then return textResponse 405 "method not allowed"
      else do
        if !(← deviceExists B id) then return textResponse 404 "device not found"
        asset B "/view.html" request
    | none => return textResponse 404 "not found"

/-- `fetch`. -/
def fetch (request : Request) : Action σ Response :=
  if isUpgrade request then fetchUpgrade B env request
  else if request.url.pathname = utf16 "/api/login" then
    ExceptT.mk (pure (login env request))
  else if !viewerAuthorized env request then return unauthorized request
  else fetchPage B request

end Routes

end Worker

end Surveillance
