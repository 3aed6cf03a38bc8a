import Tether.Json.Write
/-!
# Net.SocketAddress — IP socket addresses as text

An address is `a.b.c.d:port` or `[v6]:port`, with an optional `%scope` inside the
brackets.  Reading follows the usual grammar:

* an IPv4 octet has one to three decimal digits, no leading zero unless it is `0` itself,
  and is at most 255;
* an IPv6 group has one to four hex digits; `::` stands for one or more zero groups and
  may appear once; the last two groups may be written as an IPv4 address;
* a port or a scope id is decimal, leading zeros allowed, within 16 or 32 bits.

Writing gives the canonical text: IPv6 groups in lowercase hex without leading zeros, the
first longest run of two or more zero groups written `::`, and an IPv4-mapped address as
`::ffff:a.b.c.d`.
-/

namespace Tether

set_option autoImplicit false

/-- An IP socket address. -/
inductive SocketAddress where
  | v4 (octets : List Nat) (port : Nat)
  | v6 (groups : List Nat) (scope : Nat) (port : Nat)
  deriving DecidableEq, Repr

namespace SocketAddress

/-- A reader of a prefix of the text: the value and what is left. -/
abbrev Reader (α : Type) := List Char → Option (α × List Char)

/-- The value of a digit in a radix. -/
def digitValue (radix : Nat) (c : Char) : Option Nat :=
  let v := if '0' ≤ c ∧ c ≤ '9' then some (c.toNat - 48)
    else if 'a' ≤ c ∧ c ≤ 'z' then some (c.toNat - 87)
    else if 'A' ≤ c ∧ c ≤ 'Z' then some (c.toNat - 55)
    else none
  v.bind fun d => if d < radix then some d else none

/-- The longest run of digits at the front, with their values. -/
def digitRun (radix : Nat) : List Char → List Nat × List Char
  | [] => ([], [])
  | c :: rest =>
    match digitValue radix c with
    | some d => let (ds, r) := digitRun radix rest; (d :: ds, r)
    | none => ([], c :: rest)

/-- A number below `bound`, of at most `maxDigits` digits if given; with
`zeroPrefix = false` a number of several digits may not start with zero. -/
def number (radix bound : Nat) (maxDigits : Option Nat) (zeroPrefix : Bool) : Reader Nat := fun s =>
  let (ds, rest) := digitRun radix s
  let v := ds.foldl (fun acc d => acc * radix + d) 0
  -- a digit past the bound or past the width makes the whole number fail
  let tooLong := match maxDigits with | some m => ds.length > m | none => false
  let overflow := (ds.foldl (fun (acc : Nat × Bool) d =>
    let x := acc.1 * radix + d
    (x, acc.2 || x ≥ bound)) (0, false)).2
  if ds.isEmpty || tooLong || overflow then none
  else if !zeroPrefix ∧ ds.head? = some 0 ∧ ds.length > 1 then none
  else some (v, rest)

/-- A given character. -/
def char (c : Char) : Reader Unit := fun s =>
  match s with
  | x :: rest => if x = c then some ((), rest) else none
  | [] => none

/-- `count` items separated by `sep`. -/
def separated {α : Type} (sep : Char) (item : Reader α) : Nat → Bool → Reader (List α)
  | 0, _ => fun s => some ([], s)
  | n + 1, first => fun s => do
    let s ← if first then pure s else (char sep s).map (·.2)
    let (a, s) ← item s
    let (as, s) ← separated sep item n false s
    pure (a :: as, s)

/-- An IPv4 address. -/
def ipv4 : Reader (List Nat) := separated '.' (number 10 256 (some 3) false) 4 true

/-- Groups of an IPv6 address, at most `limit`: each a hex group, or in the last two
places an IPv4 address.  Returns the groups and whether an IPv4 address ended them. -/
def groups : Nat → Nat → List Char → (List Nat × Bool) × List Char
  | 0, _, s => (([], false), s)
  | limit + 1, i, s =>
    let sepThen {α : Type} (r : Reader α) : Reader α := fun s =>
      if i > 0 then (char ':' s).bind fun (_, s) => r s else r s
    let v4 := if limit ≥ 1 then sepThen ipv4 s else none
    match v4 with
    | some ([a, b, c, d], rest) => (([a * 256 + b, c * 256 + d], true), rest)
    | _ =>
      match sepThen (number 16 65536 (some 4) true) s with
      | some (g, rest) =>
        let ((gs, v4end), rest) := groups limit (i + 1) rest
        ((g :: gs, v4end), rest)
      | none => (([], false), s)

/-- An IPv6 address. -/
def ipv6 : Reader (List Nat) := fun s =>
  let ((head, headV4), s) := groups 8 0 s
  if head.length = 8 then some (head, s)
  else if headV4 then none
  else do
    let (_, s) ← char ':' s
    let (_, s) ← char ':' s
    let ((tail, _), s) := groups (8 - (head.length + 1)) 0 s
    pure (head ++ List.replicate (8 - head.length - tail.length) 0 ++ tail, s)

/-- A `:port` suffix. -/
def port : Reader Nat := fun s => (char ':' s).bind fun (_, s) => number 10 65536 none true s

/-- Reads a socket address; the whole text must be used. -/
def parse (text : String) : Option SocketAddress :=
  let s := text.toList
  let asV4 : Option (SocketAddress × List Char) := do
    let (ip, s) ← ipv4 s
    let (p, s) ← port s
    pure (.v4 ip p, s)
  let asV6 : Option (SocketAddress × List Char) := do
    let (_, s) ← char '[' s
    let (ip, s) ← ipv6 s
    let (scope, s) := match (char '%' s).bind fun (_, s) => number 10 (Nat.pow 2 32) none true s with
      | some (n, s) => (n, s)
      | none => (0, s)
    let (_, s) ← char ']' s
    let (p, s) ← port s
    pure (.v6 ip scope p, s)
  match asV4.or asV6 with
  | some (a, []) => some a
  | _ => none

/-- A number in lowercase hex without leading zeros. -/
def hex (n : Nat) : String := String.ofList (Nat.toDigits 16 n)

/-- IPv6 groups joined by `:`. -/
def joinGroups (gs : List Nat) : String := ":".intercalate (gs.map hex)

/-- The first longest run of zero groups: its start and length. -/
def zeroRun (gs : List Nat) : Nat × Nat :=
  let (best, _, _) := gs.foldl (fun (acc : (Nat × Nat) × (Nat × Nat) × Nat) g =>
    let (best, cur, i) := acc
    if g = 0 then
      let cur := if cur.2 = 0 then (i, 1) else (cur.1, cur.2 + 1)
      (if cur.2 > best.2 then cur else best, cur, i + 1)
    else (best, (0, 0), i + 1)) ((0, 0), (0, 0), 0)
  best

/-- The canonical text of an IPv4 address. -/
def ipv4Text (os : List Nat) : String := ".".intercalate (os.map toString)

/-- The canonical text of an IPv6 address. -/
def ipv6Text (gs : List Nat) : String :=
  match gs with
  | [0, 0, 0, 0, 0, 0xffff, a, b] => "::ffff:" ++ ipv4Text [a / 256, a % 256, b / 256, b % 256]
  | _ =>
    let (start, len) := zeroRun gs
    if len > 1 then joinGroups (gs.take start) ++ "::" ++ joinGroups (gs.drop (start + len))
    else joinGroups gs

/-- The canonical text of an address. -/
def render : SocketAddress → String
  | .v4 os p => ipv4Text os ++ ":" ++ toString p
  | .v6 gs scope p =>
    "[" ++ ipv6Text gs ++ (if scope = 0 then "" else "%" ++ toString scope) ++ "]:" ++ toString p

/-- The port. -/
def portOf : SocketAddress → Nat
  | .v4 _ p => p
  | .v6 _ _ p => p

end SocketAddress

end Tether
