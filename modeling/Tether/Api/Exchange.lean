import Tether.Json.Decode
import Tether.Error
/-!
# Api.Exchange — HTTP requests and responses of the host's web interface

A request is a method, a path (possibly with a query), and optionally a body with its
content type.  A response is a status and a body: JSON, plain text, or nothing.

## JSON bodies

An endpoint that takes a JSON body refuses, in this order:

1. a request whose content type is not JSON — `application/json`, or any
   `application/…+json`, with well-formed parameters — with status 415;
2. a body that does not start with well-formed JSON with status 400 (what follows the
   value is not read);
3. a well-formed body of the wrong shape with status 422.

The texts name the member the error arose in, if any, before the reader's own message.

## Errors of the host

Every other refusal is a JSON object `{"error": message}`, with a status that says whose
fault it is: 503 when no channel is open or the queue is full, 504 for a timeout, 409 for
a cancelled operation or a provisioning action in the wrong state, 502 for other failures
of the device or the network, 400 for a refused payload, pattern or credentials, 403 for
a topic the caller may not use.
-/

namespace Tether

open Tether.Json

set_option autoImplicit false

/-- A request to the web interface. -/
structure HttpRequest where
  method : String := "GET"
  /-- The path, possibly followed by `?` and a query. -/
  path : String
  body : Option String := none
  contentType : Option String := none

/-- The body of a response. -/
inductive ResponseBody where
  | json (j : Json)
  | text (s : String)
  | empty

/-- A response of the web interface. -/
structure HttpResponse where
  status : Nat
  body : ResponseBody

namespace HttpResponse

/-- A JSON answer with status 200. -/
def ok (j : Json) : HttpResponse := { status := 200, body := .json j }

/-- A status without a body. -/
def bare (status : Nat) : HttpResponse := { status, body := .empty }

/-- A refusal as `{"error": message}`. -/
def failure (status : Nat) (message : String) : HttpResponse :=
  { status, body := .json (Json.object [("error", .str message)]) }

end HttpResponse

/-! ## Content types -/

/-- A character of a token in a media type. -/
def isMediaTokenChar (c : Char) : Bool :=
  c.isAlphanum || "!#$%&'*+-.^_`|~".toList.contains c

/-- A character a header value may hold and still be read as text: a tab or visible
ASCII. -/
def isHeaderTextChar (c : Char) : Bool :=
  c = '\t' || (32 ≤ c.toNat && c.toNat < 127)

/-- Where a reader of media type parameters stands. -/
inductive ParamState where
  /-- Before a name: spaces are skipped. -/
  | nameStart
  /-- Inside a name. -/
  | name
  /-- Right after the `=`. -/
  | valueStart
  /-- Inside a value that is a token. -/
  | token
  /-- Right after the opening quote: a quote here is part of the value. -/
  | quoteStart
  /-- Inside a quoted value. -/
  | quoted
  /-- After the closing quote: spaces, then a `;` or the end. -/
  | afterQuote
  deriving DecidableEq, Repr

namespace ParamState

/-- The next state after a character, or none when the character is refused there. -/
def step : ParamState → Char → Option ParamState
  | .nameStart, ' ' => some .nameStart
  | .nameStart, c => if isMediaTokenChar c then some .name else none
  | .name, '=' => some .valueStart
  | .name, c => if isMediaTokenChar c then some .name else none
  | .valueStart, '"' => some .quoteStart
  | .valueStart, c => if isMediaTokenChar c then some .token else none
  | .token, ';' => some .nameStart
  | .token, c => if isMediaTokenChar c then some .token else none
  | .quoteStart, c => if c ≠ '\t' then some .quoted else none
  | .quoted, '"' => some .afterQuote
  | .quoted, c => if c ≠ '\t' then some .quoted else none
  | .afterQuote, ' ' => some .afterQuote
  | .afterQuote, ';' => some .nameStart
  | .afterQuote, _ => none

/-- Whether the parameters may end in a state: not inside a name or a quoted value. -/
def accepts : ParamState → Bool
  | .nameStart | .valueStart | .token | .afterQuote => true
  | .name | .quoteStart | .quoted => false

end ParamState

/-- Whether the text after the `;` of a media type is a list of parameters. -/
def mediaParamsValid (cs : List Char) : Bool :=
  match cs.foldlM ParamState.step .nameStart with
  | some st => st.accepts
  | none => false

/-- A media type as it is compared: type, subtype and structured suffix, in lowercase. -/
structure MediaType where
  kind : String
  subtype : String
  suffix : Option String
  deriving DecidableEq, Repr

/-- The position of the last `+` of a subtype that is not its first character. -/
def suffixMark (sub : List Char) : Option Nat :=
  ((List.range sub.length).filter fun i => 0 < i ∧ sub[i]? = some '+').getLast?

/-- Reads a content type: visible ASCII, a token, `/`, a token (its last `+` after the
first character starting the suffix), and optionally `;` and parameters, the `;` only
after a nonempty subtype. -/
def MediaType.parse (ct : String) : Option MediaType :=
  let cs := ct.toList.map Char.toLower
  if !cs.all isHeaderTextChar then none
  else
    let top := cs.takeWhile isMediaTokenChar
    match cs.drop top.length with
    | '/' :: rest =>
      let sub := rest.takeWhile isMediaTokenChar
      let paramsOk := match rest.drop sub.length with
        | [] => true
        | ';' :: params => !sub.isEmpty && mediaParamsValid params
        | _ => false
      if top.isEmpty || !paramsOk then none
      else
        let (subtype, suffix) := match suffixMark sub with
          | some i => (sub.take i, some (String.ofList (sub.drop (i + 1))))
          | none => (sub, none)
        some { kind := String.ofList top, subtype := String.ofList subtype, suffix }
    | _ => none

/-- Whether a content type names JSON: a well-formed media type whose type is
`application` and whose subtype is `json` or whose suffix is `json`, letters in any
case. -/
def isJsonContentType (ct : String) : Bool :=
  match MediaType.parse ct with
  | some m => m.kind == "application" && (m.subtype == "json" || m.suffix == some "json")
  | none => false

/-- The text of a refused content type. -/
def missingJsonContentType : String := "Expected request with `Content-Type: application/json`"

/-- Reads the JSON body of a request with a decoder, or gives the response refusing it. -/
def HttpRequest.jsonBody {α : Type} (r : HttpRequest) (d : Decoder α) : Except HttpResponse α :=
  if !(r.contentType.any isJsonContentType) then
    .error { status := 415, body := .text missingJsonContentType }
  else match decodeLeading d (r.body.getD "") with
    | .ok a => .ok a
    | .error e =>
      if e.malformed then
        .error { status := 400, body := .text ("Failed to parse the request body as JSON: " ++ e.renderWithPath) }
      else
        .error { status := 422,
                 body := .text ("Failed to deserialize the JSON body into the target type: " ++ e.renderWithPath) }

/-! ## Statuses of host errors -/

/-- The response to a link error. -/
def LinkError.response (e : LinkError) : HttpResponse :=
  let status := match e with
    | .notConnected | .queueFull => 503
    | .connectTimeout _ | .replyTimeout _ _ => 504
    | .cancelled => 409
    | _ => 502
  .failure status e.message

/-- The response to a bus error. -/
def BusError.response (e : BusError) : HttpResponse :=
  match e with
  | .link l => l.response
  | .rejected _ _ => .failure 502 e.message
  | .schemaViolation _ | .pattern _ => .failure 400 e.message
  | .undeclaredTopic _ _ | .reserved _ => .failure 403 e.message

/-- The response to a provisioning error. -/
def ProvisioningError.response (e : ProvisioningError) : HttpResponse :=
  match e with
  | .bus b => b.response
  | .invalidCredentials _ => .failure 400 e.message
  | .invalidTransition _ _ => .failure 409 e.message

end Tether
