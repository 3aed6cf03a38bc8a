import Tether.Json.Decode
/-!
# Network.AccessPoint — access points seen by the host, and the scanner's listing

An access point has an SSID, a signal quality in percent when known, and whether it is
secured.  The scanner lists one access point per line, its fields separated by `:`; inside
a field `\x` stands for `x` (so `\:` is a colon of the SSID) and a `\` at the very end of a
line is dropped.  `parseListing` keeps, in order, the first line of each SSID that is not
empty: the signal is the second field read as a number from 0 to 255 (an optional `+`,
nothing else but digits), and the access point is secured when a third field is present,
non-empty and not `--`.

Lines end at `\n`, and a `\r` right before it is dropped; an empty last line does not count.
-/

namespace Tether

open Tether.Json

set_option autoImplicit false

/-- An access point seen by the host. -/
structure AccessPoint where
  ssid : String
  /-- Signal quality in percent, when known. -/
  signal : Option Nat
  secured : Bool
  deriving DecidableEq, Repr

/-- Why the host's network tool failed. -/
inductive NetworkError where
  /-- The tool exited unsuccessfully with this status and error output. -/
  | failed (program : String) (status : String) (stderr : String)
  deriving DecidableEq, Repr

/-- The text of a network error. -/
def NetworkError.message : NetworkError → String
  | .failed p s e => p ++ " exited with " ++ s ++ ": " ++ e

namespace AccessPoint

/-- The JSON form. -/
def toJson (ap : AccessPoint) : Json :=
  Json.object [("ssid", .str ap.ssid), ("signal", Json.ofOption Json.ofNat ap.signal),
    ("secured", .bool ap.secured)]

/-- An 8-bit unsigned number, as the JSON form holds the signal. -/
def decodeU8 : Decoder Nat := decodeUnsigned 255 "u8"

/-- Reads the JSON form. -/
def decode : Decoder AccessPoint :=
  Record.decode (AccessPoint.mk <$> .field "ssid" decodeString .required
    <*> .field "signal" (decodeOption decodeU8) (.optional none)
    <*> .field "secured" decodeBool .required) "struct AccessPoint"

end AccessPoint

/-- The lines of a text: split at `\n`, a `\r` right before a `\n` dropped, no empty last
line.  A last line with no `\n` after it keeps a `\r` at its end. -/
def textLines (s : String) : List String :=
  let pieces := s.splitOn "\n"
  let ended := pieces.dropLast.map fun p => if p.endsWith "\r" then (p.dropEnd 1).toString else p
  match pieces.getLast? with
  | some "" | none => ended
  | some last => ended ++ [last]

/-- The fields of a listing line: `:` separates, `\x` stands for `x`. -/
def splitFields (line : String) : List String :=
  go line.toList [] [] |>.map String.ofList
where
  go : List Char → List Char → List (List Char) → List (List Char)
    | [], cur, acc => (acc ++ [cur.reverse])
    | '\\' :: c :: rest, cur, acc => go rest (c :: cur) acc
    | ['\\'], cur, acc => (acc ++ [cur.reverse])
    | ':' :: rest, cur, acc => go rest [] (acc ++ [cur.reverse])
    | c :: rest, cur, acc => go rest (c :: cur) acc

/-- A number from 0 to 255 with an optional leading `+`. -/
def parseByte (s : String) : Option Nat :=
  let ds := match s.toList with
    | '+' :: rest => rest
    | cs => cs
  if ds.isEmpty ∨ !ds.all Char.isDigit then none
  else
    let v := ds.foldl (fun acc c => acc * 10 + (c.toNat - 48)) 0
    if v ≤ 255 then some v else none

/-- The access points of a scanner listing, first line of each SSID, in order. -/
def parseListing (output : String) : List AccessPoint :=
  (textLines output).foldl (fun acc line =>
    match splitFields line with
    | ssid :: rest =>
      if ssid.isEmpty ∨ acc.any (·.ssid == ssid) then acc
      else
        let signal := rest.head?.bind parseByte
        let secured := match rest[1]? with
          | some s => !s.isEmpty && s != "--"
          | none => false
        acc ++ [{ ssid, signal, secured }]
    | [] => acc) []

end Tether
