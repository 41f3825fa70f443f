import Metasearch.Url.Basic

/-!
Paths of URLs. A path is read segment by segment: a single dot stands for the place reached, two dots
for the place above it.
-/

namespace Metasearch.Url

/-- Whether a character separates the segments of a path. -/
def isSeparator (kind : SchemeKind) (c : Char) : Bool :=
  c == '/' || (kind.isSpecial && c == '\\')

/-- Whether an escaped segment stands for the place reached. -/
def isSingleDot (segment : List Char) : Bool :=
  ["." , "%2e", "%2E"].contains (String.ofList segment)

/-- Whether an escaped segment stands for the place above. -/
def isDoubleDot (segment : List Char) : Bool :=
  ["..", "%2e%2e", "%2e%2E", "%2E%2e", "%2E%2E", "%2e.", "%2E.", ".%2e", ".%2E"].contains
    (String.ofList segment)

/-- Whether a segment names a drive: a letter and a colon or bar. No path leads above a drive. -/
def isDrive (segment : List Char) : Bool :=
  match segment with
  | [letter, mark] => letter.isAlpha && (mark == ':' || mark == '|')
  | _ => false

/-- The place above: the last segment is dropped, unless it names a drive. The segments are in
reverse. -/
def above : List (List Char) → List (List Char)
  | [] => []
  | last :: before => if isDrive last then last :: before else before

/-- A segment as it is kept after those in `done`. A drive at the beginning of a file path is written
with a colon. -/
def keptSegment (kind : SchemeKind) (done : List (List Char)) (segment : List Char) : List Char :=
  match kind, done, segment with
  | .file, [], [letter, mark] => if isDrive segment then [letter, ':'] else [letter, mark]
  | _, _, _ => segment

/-- Walk through the escaped segments of a path. `done` holds the segments passed so far, in reverse;
the answer holds all segments that are followed by a slash, in order, and the last one. -/
def walk (kind : SchemeKind) (done : List (List Char)) :
    List (List Char) → List (List Char) × List Char
  | [] => (done.reverse, [])
  | [last] =>
    if isDoubleDot last then ((above done).reverse, [])
    else if isSingleDot last then (done.reverse, [])
    else (done.reverse, keptSegment kind done last)
  | segment :: rest =>
    if isDoubleDot segment then walk kind (above done) rest
    else if isSingleDot segment then walk kind done rest
    else walk kind (keptSegment kind done segment :: done) rest

/-- The text of a path below the root. -/
def pathText (segments : List (List Char)) (last : List Char) : List Char :=
  '/' :: segments.flatMap (· ++ ['/']) ++ last

/-- The segments of a hierarchical path: all that are followed by a slash, and the last one. One leading
separator is the root. -/
def segmentsOf (kind : SchemeKind) (text : List Char) : List (List Char) × List Char :=
  let below := match text with
    | c :: rest => if isSeparator kind c then rest else text
    | [] => []
  walk kind [] ((Text.splitAtMarks (isSeparator kind) below).map (Percent.escape Percent.pathSet))

/-- Read a hierarchical path. The path of a scheme that the web does not know may also be empty. A file
path does not begin with an empty segment. -/
def readPath (kind : SchemeKind) (text : List Char) : List Char :=
  if text.isEmpty && !kind.isSpecial then []
  else
    let (passed, last) := segmentsOf kind text
    let path := pathText passed last
    match kind with
    | .file => '/' :: path.dropWhile (· == '/')
    | _ => path

/-- Whether a path begins with a drive, which leaves no room for a host. -/
def namesDrive (kind : SchemeKind) (text : List Char) : Bool :=
  match segmentsOf kind text with
  | ([], last) => isDrive last
  | (first :: _, _) => isDrive first

end Metasearch.Url
