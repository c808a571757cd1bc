import GhostRecon.Lib.Addresses

/-!
The parts of a URL. A scheme stands before the first colon; between two slashes and the path
stands the network location, which is a host with a user before it and a port behind it. A host
in brackets must be a long address or one of a later version. Compatibility forms are resolved by
a function that is given, since its tables are not here.
-/

namespace GhostRecon.Lib

section Cuts

/-- The text before the first of a character. -/
def before (cut : Char) (text : List Char) : List Char :=
  text.takeWhile (· ≠ cut)

/-- The text behind the first of a character; none is behind a character that is missing. -/
def behind (cut : Char) (text : List Char) : List Char :=
  (text.dropWhile (· ≠ cut)).drop 1

/-- The text behind the last of a character, or the whole text. -/
def behindLast (cut : Char) (text : List Char) : List Char :=
  (text.reverse.takeWhile (· ≠ cut)).reverse

end Cuts

section Split

structure SplitResult where
  scheme : List Char
  netloc : List Char
  path : List Char
  query : List Char
  fragment : List Char
  deriving DecidableEq

def isSchemeCharacter (c : Char) : Bool :=
  c.isAlpha || isDecimal c || c == '+' || c == '-' || c == '.'

/-- The scheme in lower case, and the rest of the text. -/
def cutScheme (url : List Char) : List Char × List Char :=
  if ':' ∈ url ∧ (before ':' url).head?.any Char.isAlpha ∧
      (before ':' url).all isSchemeCharacter then
    ((before ':' url).map Char.toLower, behind ':' url)
  else ([], url)

def endsNetloc (c : Char) : Bool :=
  c == '/' || c == '?' || c == '#'

/-- The network location behind two slashes, and the rest of the text. -/
def cutNetloc (url : List Char) : List Char × List Char :=
  match url with
  | '/' :: '/' :: rest =>
    (rest.takeWhile (!endsNetloc ·), rest.dropWhile (!endsNetloc ·))
  | _ => ([], url)

/-- The host of a network location, and the text of its port. -/
def hostinfo (netloc : List Char) : List Char × List Char :=
  let hostport := behindLast '@' netloc
  if '[' ∈ hostport then
    (before ']' (behind '[' hostport), behind ':' (behind ']' (behind '[' hostport)))
  else (before ':' hostport, behind ':' hostport)

/-- The host in brackets of a later version: its number and its text. -/
def isFutureHost (host : List Char) : Bool :=
  let version := (host.drop 1).takeWhile isHexadecimal
  let text := (host.drop 1).dropWhile isHexadecimal
  !version.isEmpty && text.head? == some '.' && 2 ≤ text.length

def bracketedHostOk (host : List Char) : Bool :=
  if host.head? = some 'v' then isFutureHost host
  else
    match ipAddress host with
    | some (.v6 _ _) => true
    | _ => false

/-- Nothing stands before a bracket, and only a port behind one. -/
def bracketedNetlocOk (netloc : List Char) : Bool :=
  let hostport := behindLast '@' netloc
  if '[' ∈ hostport then
    let port := behind ']' (behind '[' hostport)
    (before '[' hostport).isEmpty && (port.isEmpty || port.head? == some ':') &&
      bracketedHostOk (before ']' (behind '[' hostport))
  else bracketedHostOk (before ':' hostport)

/-- The brackets of a network location come in both kinds, and hold a host, or there are none. -/
def bracketsOk (netloc : List Char) : Bool :=
  if '[' ∈ netloc then
    if ']' ∈ netloc then bracketedNetlocOk netloc else false
  else !decide (']' ∈ netloc)

variable (nfkc : List Char → List Char)

/-- No compatibility form hides a character that would end a part. -/
def netlocOk (netloc : List Char) : Bool :=
  let kept := netloc.filter fun c => !(c == '@' || c == ':' || c == '#' || c == '?')
  netloc.all (·.toNat < 128) || nfkc kept == kept ||
    (nfkc kept).all fun c => !(c == '/' || c == '?' || c == '#' || c == '@' || c == ':')

/-- The text without the controls and blanks in front and the breaks inside. -/
def cleanUrl (url : List Char) : List Char :=
  (url.dropWhile (· ≤ ' ')).filter fun c => !(c == '\t' || c == '\r' || c == '\n')

/-- `urlsplit`; none where it raises. -/
def urlsplit (url : List Char) : Option SplitResult :=
  let (scheme, rest) := cutScheme (cleanUrl url)
  let (netloc, rest) := cutNetloc rest
  if bracketsOk netloc && netlocOk nfkc netloc then
    some
      { scheme
        netloc
        path := before '?' (before '#' rest)
        query := behind '?' (before '#' rest)
        fragment := behind '#' rest }
  else none

/-- The network location names a user. -/
def SplitResult.hasUser (parsed : SplitResult) : Bool :=
  decide ('@' ∈ parsed.netloc)

/-- The host in lower case, with its scope as it is; none where it is empty. -/
def SplitResult.hostname (lower : List Char → List Char) (parsed : SplitResult) :
    Option (List Char) :=
  let host := (hostinfo parsed.netloc).1
  if host = [] then none
  else some (lower (before '%' host) ++ host.dropWhile (· ≠ '%'))

end Split

end GhostRecon.Lib
