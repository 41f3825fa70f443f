import Metasearch.Text.Case
import Metasearch.Url.Form
import Metasearch.Url.Parser

/-!
A normal form of URLs, in which copies of one page that differ in spelling become equal: fragments and
tracking parameters are dropped, the other parameters are sorted, and slashes at the end of the path
are removed.
-/

namespace Metasearch.Url

/-- Query parameters that track visitors and do not choose the page. -/
def trackingNames : List String :=
  ["utm_source", "utm_medium", "utm_campaign", "utm_term", "utm_content", "fbclid", "gclid", "ref",
    "si", "feature"]

/-- Whether a parameter tracks visitors; its name may be in any case. -/
def isTracking (pair : Form.Pair) : Bool :=
  trackingNames.contains (String.ofList (Text.lowerChars pair.1))

/-- Order of texts by code points, which is the order of their bytes. -/
def textLe : List Char → List Char → Bool
  | [], _ => true
  | _ :: _, [] => false
  | a :: as, b :: bs => a < b || (a == b && textLe as bs)

/-- Order of pairs by name, then by value. -/
def pairLe (a b : Form.Pair) : Bool :=
  if a.1 = b.1 then textLe a.2 b.2 else textLe a.1 b.1

/-- The parameters that choose the page, sorted. -/
def pageParameters (url : Url) : List Form.Pair :=
  ((Form.decode (url.query.getD [])).filter (!isTracking ·)).mergeSort pairLe

/-- Drop blanks at the end of an uninterpreted path that nothing follows. -/
def withoutTrailingBlanks (url : Url) : Url :=
  if url.isOpaque && url.query.isNone then
    { url with path := Text.dropTailWhile (· == ' ') url.path }
  else url

/-- Replace the query by the sorted parameters that choose the page. -/
def withPageQuery (url : Url) : Url :=
  let url := withoutTrailingBlanks url
  match pageParameters url with
  | [] => withoutTrailingBlanks { url with query := none }
  | pairs => { url with query := some (Form.encode pairs) }

/-- Replace the path, which is read again. -/
def withPath (url : Url) (path : List Char) : Url :=
  if url.isOpaque then { url with path := Percent.escape Percent.controlSet path }
  else { url with path := readPath (schemeKind url.scheme) path }

/-- Remove the slashes at the end of the path. The root keeps its one slash. -/
def withoutTrailingSlashes (url : Url) : Url :=
  if url.path.length > 1 ∧ url.path.getLast? = some '/' then
    let shorter := url.withPath (Text.dropTailWhile (· == '/') url.path)
    if shorter.path.isEmpty then shorter.withPath ['/'] else shorter
  else url

/-- The normal form of a URL. -/
def normal (url : Url) : Url :=
  url.withPageQuery.withoutTrailingSlashes

/-- The text of the normal form. What is no URL is only trimmed. -/
def normalize (raw : String) : String :=
  let trimmed := Text.trimChars raw.toList
  match parse trimmed with
  | some url => String.ofList url.normal.toText
  | none => String.ofList trimmed

/-- What follows the first `://` of a text. -/
def afterScheme? : List Char → Option (List Char)
  | ':' :: '/' :: '/' :: rest => some rest
  | _ :: rest => afterScheme? rest
  | [] => none

/-- The key under which copies of a page meet: the normal form without its scheme, or all of it if it
has none. -/
def dedupKey (raw : String) : String :=
  let normal := (normalize raw).toList
  String.ofList ((afterScheme? normal).getD normal)

end Metasearch.Url
