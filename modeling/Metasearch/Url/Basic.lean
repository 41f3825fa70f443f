import Metasearch.Url.Host

/-!
URLs taken apart. All parts but the host are kept in the escaped form in which they are written.
-/

namespace Metasearch

/-- The user, host and port of a URL. The port is left out when it is the scheme's own. -/
structure Url.Authority where
  user : List Char
  password : Option (List Char)
  host : Url.Host
  port : Option Nat
deriving DecidableEq, Repr

/-- A URL without its fragment, which nothing here depends on. -/
structure Url where
  scheme : List Char
  authority : Option Url.Authority
  /-- Whether `/.` is written before the path. Without an authority a path that begins with two
  slashes would be read as one. -/
  guarded : Bool
  path : List Char
  query : Option (List Char)
deriving DecidableEq, Repr

namespace Url

/-- The kinds of schemes. The web knows five network schemes and the one for files. -/
inductive SchemeKind where
  | network (port : Nat)
  | file
  | other
deriving DecidableEq, Repr

def schemeKind (scheme : List Char) : SchemeKind :=
  match String.ofList scheme with
  | "http" => .network 80
  | "https" => .network 443
  | "ws" => .network 80
  | "wss" => .network 443
  | "ftp" => .network 21
  | "file" => .file
  | _ => .other

def SchemeKind.isSpecial : SchemeKind → Bool
  | .other => false
  | _ => true

/-- Whether the path is an uninterpreted text, as in `mailto:someone`. -/
def isOpaque (url : Url) : Bool :=
  url.authority.isNone && !url.guarded && url.path.head? != some '/'

def Authority.toText (authority : Authority) : List Char :=
  let credentials := authority.user ++ (match authority.password with
    | some password => ':' :: password
    | none => [])
  (if credentials.isEmpty then [] else credentials ++ ['@']) ++ authority.host.toText ++
    (match authority.port with
      | some port => ':' :: (toString port).toList
      | none => [])

/-- Write a URL. -/
def toText (url : Url) : List Char :=
  url.scheme ++ [':'] ++
    (match url.authority with
      | some authority => ['/', '/'] ++ authority.toText
      | none => []) ++
    (if url.guarded then ['/', '.'] else []) ++ url.path ++
    (match url.query with
      | some query => '?' :: query
      | none => [])

end Url

end Metasearch
