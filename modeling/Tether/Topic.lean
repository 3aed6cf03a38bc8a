/-!
# Topic — topic patterns and matching

Telemetry topics are `/`-separated names such as `wifi/rssi`.  A pattern is written the
same way, after trimming every leading and trailing `/`; it must be non-empty and have no
empty segment.  A segment `*` is a wildcard, every other segment (`**` and `wi*fi`
included) is literal.

Matching a topic against a pattern (`TopicPattern.matchesTopic`):

* the pattern `*` alone matches every topic, even the empty one;
* otherwise the topic is trimmed of `/` and split at `/`; each pattern segment takes one
  topic segment, which must be non-empty; a literal must equal it;
* a wildcard that is the last pattern segment matches whatever follows the segment it
  takes; any other pattern must use up every topic segment.
-/

namespace Tether

set_option autoImplicit false

/-- One segment of a topic pattern. -/
inductive Segment where
  | literal (s : String)
  | wildcard
  deriving DecidableEq, Repr

/-- A validated topic pattern: its trimmed text and its segments (never empty). -/
structure TopicPattern where
  raw : String
  segments : List Segment
  deriving Repr

/-- Why a pattern was refused. -/
inductive PatternError where
  /-- Nothing was left after trimming the slashes. -/
  | emptyPattern
  /-- A segment of the trimmed pattern is empty. -/
  | emptySegment (trimmed : String)
  deriving DecidableEq, Repr

/-- The text of a pattern error. -/
def PatternError.message : PatternError → String
  | .emptyPattern => "Empty pattern"
  | .emptySegment p => "Empty segment in pattern '" ++ p ++ "'"

/-- The kind of a pattern error, as the variant name. -/
def PatternError.kind : PatternError → String
  | .emptyPattern => "EmptyPattern"
  | .emptySegment _ => "EmptySegment"

/-- Removes every leading and trailing `/`. -/
def trimSlashes (s : String) : String :=
  let cs := (s.toList.dropWhile (· = '/')).reverse.dropWhile (· = '/')
  String.ofList cs.reverse

/-- The `/`-separated segments of a text, empty ones included: `"a//b/"` has four. -/
def segmentsOf (s : String) : List String := s.splitToList (· == '/')

/-- The segment a piece of pattern text stands for. -/
def Segment.ofText (s : String) : Segment := if s = "*" then .wildcard else .literal s

namespace TopicPattern

/-- Parses a pattern. -/
def parse (pattern : String) : Except PatternError TopicPattern :=
  let raw := trimSlashes pattern
  if raw.isEmpty then .error .emptyPattern
  else
    let parts := segmentsOf raw
    if parts.any (·.isEmpty) then .error (.emptySegment raw)
    else .ok { raw, segments := parts.map Segment.ofText }

/-- Whether the pattern has no wildcard, so names exactly one topic. -/
def isExact (p : TopicPattern) : Bool := !p.segments.contains .wildcard

/-- Matches the segments of a pattern against the remaining topic segments. -/
def matchSegments : List Segment → List String → Bool
  | [], rest => rest.isEmpty
  | seg :: segs, part :: rest =>
    !part.isEmpty &&
      match seg, segs with
      | .literal l, _ => part == l && matchSegments segs rest
      | .wildcard, [] => true
      | .wildcard, _ => matchSegments segs rest
  | _ :: _, [] => false

/-- Whether a topic matches the pattern. -/
def matchesTopic (p : TopicPattern) (topic : String) : Bool :=
  if p.segments = [.wildcard] then true
  else matchSegments p.segments (segmentsOf (trimSlashes topic))

end TopicPattern

end Tether
