/-!
# Net.Uri — reading the control URL of a device

A control URL is read as an HTTP request target: an optional scheme, an authority and a
path with an optional query.  The reading is strict about characters and lenient about
structure, and a refusal names one of six reasons (`UriError`).

* A text longer than 65534 bytes, or empty, is refused outright.  The one-character texts
  `/` and `*` are paths; any other single character must form a whole authority.
* A text starting with `/` is a path.
* Otherwise a scheme is recognised: `http://` or `https://` in any case, or a run of
  letters, digits, `+`, `-`, `.` and `~` followed by `://` (at most 64 characters before the
  colon).  Without a scheme the whole text must be an authority; with one, something must
  follow the scheme, the authority must not be empty and the rest is the path.
* The authority runs to the first `/`, `?` or `#`.  It allows letters, digits and
  ``!#$&'()*+,-./:;=?@[]_~``.  At most one port colon may stand outside brackets and after
  the last `@`, brackets must pair once, `%` may only appear in the user part, and an `@`
  may not end it; breaking one of these makes the authority invalid, any other character
  is an invalid character.
* The path allows the printable ASCII characters except space, `#`, `<`, `>`, `?` and
  backtick, and every non-ASCII character; a `?` starts the query, which allows the
  printable ASCII characters except space, `"`, `#`, `<` and `>`, and every non-ASCII
  character; a `#` ends both, and what follows it is not looked at.  Controls and DEL are
  allowed in neither.
-/

namespace Tether

set_option autoImplicit false

/-- Why a text is not a URL. -/
inductive UriError where
  | tooLong
  | empty
  | invalidChar
  | invalidAuthority
  | invalidFormat
  | schemeTooLong
  deriving DecidableEq, Repr

/-- The text of a URL error. -/
def UriError.message : UriError → String
  | .tooLong => "uri too long"
  | .empty => "empty string"
  | .invalidChar => "invalid uri character"
  | .invalidAuthority => "invalid authority"
  | .invalidFormat => "invalid format"
  | .schemeTooLong => "scheme too long"

/-- A URL as far as connecting needs it. -/
structure Uri where
  /-- The scheme: `http` or `https` when written in any case, else as written. -/
  scheme : Option String := none
  /-- The authority as written; empty when there is none. -/
  authority : String := ""
  /-- The path and query, without the fragment. -/
  pathAndQuery : String := ""
  deriving DecidableEq, Repr

namespace Uri

/-- The longest URL read, in bytes. -/
def maxBytes : Nat := 65534

/-- The longest scheme accepted, in characters. -/
def maxSchemeLength : Nat := 64

/-- A character that may stand in an authority as it is. -/
def isAuthorityChar (c : Char) : Bool :=
  c.isAlphanum || "!#$&'()*+,-./:;=?@[]_~".toList.contains c

/-- A character that may stand in a scheme. -/
def isSchemeChar (c : Char) : Bool := c.isAlphanum || c == '+' || c == '-' || c == '.' || c == '~'

/-- A character that may stand in a path as it is. -/
def isPathChar (c : Char) : Bool :=
  let n := c.toNat
  n == 0x21 || (0x24 ≤ n && n ≤ 0x3B) || n == 0x3D || (0x40 ≤ n && n ≤ 0x5F) ||
    (0x61 ≤ n && n ≤ 0x7A) || n == 0x7C || n == 0x7E || 0x80 ≤ n || c == '"' || c == '{' || c == '}'

/-- A character that may stand in a query as it is. -/
def isQueryChar (c : Char) : Bool :=
  let n := c.toNat
  n == 0x21 || (0x24 ≤ n && n ≤ 0x3B) || n == 0x3D || (0x3F ≤ n && n ≤ 0x7E) || 0x80 ≤ n

/-- What reading an authority has seen so far. -/
structure AuthorityScan where
  colons : Nat := 0
  opened : Bool := false
  closed : Bool := false
  percent : Bool := false
  lastAt : Option Nat := none

/-- Reads an authority from position `i` on: where it ends and what it held. -/
def scanAuthority : List Char → Nat → AuthorityScan → Except UriError (Nat × AuthorityScan)
  | [], i, st => .ok (i, st)
  | c :: rest, i, st =>
    if c == '/' || c == '?' || c == '#' then .ok (i, st)
    else if c == ':' then
      if 8 ≤ st.colons then .error .invalidAuthority
      else scanAuthority rest (i + 1) { st with colons := st.colons + 1 }
    else if c == '[' then
      if st.percent || st.opened then .error .invalidAuthority
      else scanAuthority rest (i + 1) { st with opened := true }
    else if c == ']' then
      if !st.opened || st.closed then .error .invalidAuthority
      else scanAuthority rest (i + 1) { st with closed := true, colons := 0, percent := false }
    else if c == '@' then
      scanAuthority rest (i + 1) { st with lastAt := some i, colons := 0, percent := false }
    else if c == '%' then scanAuthority rest (i + 1) { st with percent := true }
    else if isAuthorityChar c then scanAuthority rest (i + 1) st
    else .error .invalidChar

/-- The length of the authority at the front of `cs`, checked. -/
def authorityEnd (cs : List Char) : Except UriError Nat := do
  let (stop, st) ← scanAuthority cs 0 {}
  if st.opened != st.closed then throw .invalidAuthority
  if 1 < st.colons then throw .invalidAuthority
  if 0 < stop && st.lastAt == some (stop - 1) then throw .invalidAuthority
  if st.percent then throw .invalidAuthority
  pure stop

/-- Checks a query, returning it without its fragment. -/
def checkQuery : List Char → Except UriError (List Char)
  | [] => .ok []
  | c :: rest =>
    if c == '#' then .ok []
    else if isQueryChar c then (checkQuery rest).map (c :: ·)
    else .error .invalidChar

/-- Checks a path and its query, returning them without the fragment. -/
def checkPath : List Char → Except UriError (List Char)
  | [] => .ok []
  | c :: rest =>
    if c == '?' then (checkQuery rest).map (c :: ·)
    else if c == '#' then .ok []
    else if isPathChar c then (checkPath rest).map (c :: ·)
    else .error .invalidChar

/-- Whether `cs` starts with `pre`, letters compared without case. -/
def startsWithFolded (cs : List Char) (pre : String) : Bool :=
  (cs.take pre.length).map Char.toLower == pre.toList

/-- Finds a scheme written as characters, a colon and `//`: its text and how many
characters it takes with its `://`. -/
def otherScheme (cs : List Char) : Nat → List Char → Except UriError (Option (String × Nat))
  | _, [] => .ok none
  | i, c :: rest =>
    if c == ':' then
      if cs.length < i + 3 then .ok none
      else if rest.take 2 != ['/', '/'] then .ok none
      else if maxSchemeLength < i then .error .schemeTooLong
      else .ok (some (String.ofList (cs.take i), i + 3))
    else if isSchemeChar c then otherScheme cs (i + 1) rest
    else .ok none

/-- The scheme at the front of `cs`, if there is one, and how many characters it takes. -/
def scheme? (cs : List Char) : Except UriError (Option (String × Nat)) :=
  if 7 ≤ cs.length && startsWithFolded cs "http://" then .ok (some ("http", 7))
  else if 8 ≤ cs.length && startsWithFolded cs "https://" then .ok (some ("https", 8))
  else if 3 < cs.length then otherScheme cs 0 cs
  else .ok none

/-- Reads a URL that is neither a lone character nor a path. -/
def parseFull (cs : List Char) : Except UriError Uri := do
  match ← scheme? cs with
  | none =>
    let stop ← authorityEnd cs
    if stop != cs.length then throw .invalidFormat
    pure { authority := String.ofList cs }
  | some (scheme, skip) =>
    let rest := cs.drop skip
    if rest.isEmpty then throw .empty
    let stop ← authorityEnd rest
    if stop == 0 then throw .invalidFormat
    let path ← checkPath (rest.drop stop)
    pure { scheme := some scheme, authority := String.ofList (rest.take stop),
           pathAndQuery := String.ofList path }

/-- Reads a URL. -/
def parse (text : String) : Except UriError Uri :=
  if maxBytes < text.utf8ByteSize then .error .tooLong
  else match text.toList with
    | [] => .error .empty
    | ['/'] => .ok { pathAndQuery := "/" }
    | ['*'] => .ok { pathAndQuery := "*" }
    | [c] => do
      let stop ← authorityEnd [c]
      if stop != 1 then throw .invalidChar
      pure { authority := text }
    | '/' :: rest => do
      let path ← checkPath rest
      pure { pathAndQuery := String.ofList ('/' :: path) }
    | cs => parseFull cs

/-- The path of a URL, without its query: `/` when a URL with a scheme or a path has an
empty one, and empty for a URL that is only an authority. -/
def path (u : Uri) : String :=
  let p := (u.pathAndQuery.splitOn "?").headD ""
  if !p.isEmpty then p
  else if u.scheme.isSome || !u.pathAndQuery.isEmpty then "/"
  else ""

/-- The host of the authority: after the last `@`, and up to the port colon, keeping an
address in brackets whole. -/
def host (u : Uri) : String :=
  let hostPort := (u.authority.splitOn "@").getLastD ""
  match hostPort.toList with
  | '[' :: _ => String.ofList ((hostPort.toList.takeWhile (· != ']')) ++ [']'])
  | cs => String.ofList (cs.takeWhile (· != ':'))

/-- Reads a port number: decimal digits, with an optional `+`, below 65536. -/
def readPort (s : String) : Option Nat :=
  let digits := match s.toList with
    | '+' :: rest => rest
    | cs => cs
  if digits.isEmpty || !digits.all Char.isDigit then none
  else
    let n := digits.foldl (fun acc c => acc * 10 + (c.toNat - '0'.toNat)) 0
    if n < 65536 then some n else none

/-- The port written after the last colon of the authority, if it reads as one. -/
def port? (u : Uri) : Option Nat :=
  match u.authority.splitOn ":" with
  | [_] => none
  | parts => readPort (parts.getLastD "")

end Uri

end Tether
