import Metasearch.Url.Path

/-!
Reading URLs. Blanks at the ends and line breaks and tabs anywhere are dropped first; then scheme,
user, host, port, path and query are cut off from left to right.
-/

namespace Metasearch.Url

/-- Drop what a URL text may carry without meaning. -/
def cleaned (text : List Char) : List Char :=
  let isPadding := fun c : Char => c.toNat ≤ 0x20
  (Text.dropTailWhile isPadding (text.dropWhile isPadding)).filter
    fun c => c != '\t' && c != '\n' && c != '\r'

def isSchemeChar (c : Char) : Bool :=
  c.isAlphanum || c == '+' || c == '-' || c == '.'

/-- Cut off the scheme, in lower case, with what follows its colon. -/
def takeScheme (text : List Char) : Option (List Char × List Char) :=
  match text with
  | [] => none
  | first :: _ =>
    if !first.isAlpha then none
    else
      match text.dropWhile isSchemeChar with
      | ':' :: rest => some ((text.takeWhile isSchemeChar).map Char.toLower, rest)
      | _ => none

/-- Whether a character ends the authority. -/
def endsAuthority (kind : SchemeKind) (c : Char) : Bool :=
  c == '/' || c == '?' || c == '#' || (kind.isSpecial && c == '\\')

/-- Cut at the last `@` of a text. -/
def cutAtLastAt (text : List Char) : Option (List Char × List Char) :=
  if text.contains '@' then
    let after := (text.reverse.takeWhile (· != '@')).reverse
    some (text.take (text.length - after.length - 1), after)
  else none

/-- The credentials before the last `@` of an authority, escaped, and what follows. `none` if there
is nothing on either side of it. -/
def takeCredentials (kind : SchemeKind) (text : List Char) :
    Option ((List Char × Option (List Char)) × List Char) :=
  let region := text.takeWhile (!endsAuthority kind ·)
  let following := text.dropWhile (!endsAuthority kind ·)
  match cutAtLastAt region with
  | none => some (([], none), text)
  | some (credentials, after) =>
    if credentials.isEmpty then
      if after.isEmpty && !following.isEmpty then none else some (([], none), after ++ following)
    else
      let user := credentials.takeWhile (· != ':')
      let password := (credentials.dropWhile (· != ':')).drop 1
      let escape := Percent.escape Percent.userinfoSet
      some ((escape user, if password.isEmpty then none else some (escape password)),
        after ++ following)

/-- Cut off the text of a host. A colon between brackets belongs to it. -/
def takeHost (kind : SchemeKind) (inBrackets : Bool) : List Char → List Char × List Char
  | [] => ([], [])
  | c :: rest =>
    if (c == ':' && !inBrackets) || endsAuthority kind c then ([], c :: rest)
    else
      let (host, after) := takeHost kind (c == '[' || (inBrackets && c != ']')) rest
      (c :: host, after)

/-- Cut off the port after its colon. The scheme's own port counts as none. -/
def takePort (kind : SchemeKind) (text : List Char) : Option (Option Nat × List Char) :=
  match text with
  | ':' :: digits =>
    let number := digits.takeWhile Host.isDecimal
    let rest := digits.dropWhile Host.isDecimal
    let value := Host.valueIn 10 number
    let port := if number.isEmpty || kind == .network value then none else some value
    if value > 65535 then none
    else match rest with
      | [] => some (port, [])
      | c :: _ => if c == '/' || c == '\\' || c == '?' || c == '#' then some (port, rest) else none
  | _ => some (none, text)

/-- Whether a character ends the path. -/
def endsPath (c : Char) : Bool :=
  c == '?' || c == '#'

/-- The query at the head of what follows a path, escaped; the fragment after it is dropped. -/
def takeQuery (kind : SchemeKind) (text : List Char) : Option (List Char) :=
  match text with
  | '?' :: rest =>
    let inSet := if kind.isSpecial then Percent.specialQuerySet else Percent.querySet
    some (Percent.escape inSet (rest.takeWhile (· != '#')))
  | _ => none

/-- Read what follows the slashes before an authority. -/
def readAuthority (scheme : List Char) (kind : SchemeKind) (text : List Char) : Option Url := do
  let ((user, password), rest) ← takeCredentials kind text
  let (hostText, rest) := takeHost kind false rest
  if hostText.isEmpty && (kind.isSpecial || rest.head? == some ':') then none
  let host ← if kind.isSpecial then Host.parseSpecial hostText else Host.parseOpaque hostText
  let (port, rest) ← takePort kind rest
  if host == .empty && (!user.isEmpty || password.isSome) then none
  return {
    scheme, guarded := false
    authority := some ⟨user, password, host, port⟩
    path := readPath kind (rest.takeWhile (!endsPath ·))
    query := takeQuery kind (rest.dropWhile (!endsPath ·)) }

/-- Read a URL without authority. -/
def readWithoutAuthority (scheme : List Char) (text : List Char) : Url :=
  let pathPart := text.takeWhile (!endsPath ·)
  let path :=
    if pathPart.head? == some '/' then readPath .other pathPart
    else Percent.escape Percent.controlSet pathPart
  { scheme, authority := none
    guarded := ['/', '/'].isPrefixOf path
    path, query := takeQuery .other (text.dropWhile (!endsPath ·)) }

/-- Read a file URL after its colon. Two slashes announce a host, which may be empty or the local
one; a drive takes the place of a host. -/
def readFile (text : List Char) : Option Url := do
  let isSlash := isSeparator .file
  let (hostText, rest) := match text with
    | a :: b :: rest =>
      if isSlash a && isSlash b then
        let hostText := rest.takeWhile fun c => !isSlash c && !endsPath c
        if isDrive hostText then ([], rest)
        else (hostText, rest.dropWhile fun c => !isSlash c && !endsPath c)
      else ([], text)
    | _ => ([], text)
  let host ← if hostText.isEmpty then some Host.empty else Host.parseSpecial hostText
  let pathPart := rest.takeWhile (!endsPath ·)
  let isLocal := host == .name "localhost".toList || namesDrive .file pathPart
  return {
    scheme := "file".toList, guarded := false
    authority := some ⟨[], none, if isLocal then .empty else host, none⟩
    path := readPath .file pathPart
    query := takeQuery .file (rest.dropWhile (!endsPath ·)) }

/-- Read an absolute URL. -/
def parse (text : List Char) : Option Url := do
  let (scheme, rest) ← takeScheme (cleaned text)
  match schemeKind scheme with
  | .network port => readAuthority scheme (.network port) (rest.dropWhile (isSeparator .file))
  | .file => readFile rest
  | .other =>
    match rest with
    | '/' :: '/' :: rest => readAuthority scheme .other rest
    | _ => return readWithoutAuthority scheme rest

end Metasearch.Url
