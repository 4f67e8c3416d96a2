import ExactCalc.Service.Host
import ExactCalc.Service.HostName
import ExactCalc.Text.Quoted

/-!
# Addresses of requests

An address is a path that may stand behind a scheme and an authority, and before a
query and a fragment. An authority names a host, and may name a user before it and a
port after it. The service is the only one there is: where an address leads elsewhere
it is followed all the same, as long as its parts are well formed, and of a well-formed
address only the path counts. Segments of one or two dots are resolved, and escapes are
replaced by the characters that they stand for, twice over.
-/

namespace ExactCalc.Service.Address

/-- Why an address is refused. -/
inductive Problem
  | tooLong
  | unprintable (c : Char) (position : Nat)
  | notFourBytes (host : String)
  | notEightGroups (host : String)
  | noHostName (host : String)
  | noPort (text : String)
  | doubleSlash
  | colon
  | partTooLong (part : String)
  | unknownScheme (scheme : String)
  deriving DecidableEq, Repr

def Problem.message : Problem → String
  | tooLong => "URL too long"
  | unprintable c position =>
    "Invalid non-printable ASCII character in URL, " ++
      s!"{Text.quoted (String.singleton c)} at position {position.repr}."
  | notFourBytes host => s!"Invalid IPv4 address: {Text.quoted host}"
  | notEightGroups host => s!"Invalid IPv6 address: {Text.quoted host}"
  | noHostName host => s!"Invalid IDNA hostname: {Text.quoted host}"
  | noPort text => s!"Invalid port: {Text.quoted text}"
  | doubleSlash => "Relative URLs cannot have a path starting with '//'"
  | colon => "Relative URLs cannot have a path starting with ':'"
  | partTooLong part => s!"URL component '{part}' too long"
  | unknownScheme scheme => Text.quoted scheme

/-- How many characters an address may have, and each part of it once it is escaped. -/
def maxLength : Nat := 65536

def isControl (c : Char) : Bool := c.toNat < 0x20 || c.toNat == 0x7F

/-! ## Parts -/

def inScheme (c : Char) : Bool := c.isAlphanum || c == '+' || c == '.' || c == '-'

/-- Splits off a scheme with its colon. The scheme may be empty. -/
def splitScheme (text : List Char) : List Char × List Char :=
  let scheme := text.takeWhile inScheme
  match text.dropWhile inScheme with
  | ':' :: rest => if scheme.head?.all Char.isAlpha then (scheme, rest) else ([], text)
  | _ => ([], text)

def inAuthority (c : Char) : Bool := c ≠ '/' && c ≠ '?' && c ≠ '#'

/-- Splits off an authority, which follows two slashes. -/
def splitAuthority : List Char → List Char × List Char
  | '/' :: '/' :: rest => (rest.takeWhile inAuthority, rest.dropWhile inAuthority)
  | text => ([], text)

def inPath (c : Char) : Bool := c ≠ '?' && c ≠ '#'

def inQuery (c : Char) : Bool := c ≠ '#'

/-- Splits at the last place where `mark` stands, which goes with the first part. -/
def splitAtLast? (mark : Char) (text : List Char) : Option (List Char × List Char) :=
  match text.reverse.dropWhile (· ≠ mark) with
  | [] => none
  | front => some (front.reverse, (text.reverse.takeWhile (· ≠ mark)).reverse)

structure Authority where
  user : List Char
  host : List Char
  port : Option Int
  deriving DecidableEq, Repr

/-- Splits off a host, which may stand in brackets and then may contain colons. -/
def splitHost (text : List Char) : List Char × List Char :=
  let inHost (c : Char) : Bool := c ≠ ':'
  let plain := (text.takeWhile inHost, text.dropWhile inHost)
  if text.head? == some '[' then (splitAtLast? ']' text).getD plain else plain

def isBracketed (host : List Char) : Bool :=
  host.head? == some '[' && host.getLast? == some ']'

def checkHost (host : List Char) : Except Problem Unit :=
  if Host.looksNumeric host then
    if Host.isFourBytes host then .ok () else .error (.notFourBytes (.ofList host))
  else if isBracketed host then
    if Host.isEightGroups host.tail.dropLast then .ok ()
    else .error (.notEightGroups (.ofList host))
  else if HostName.isAscii host || HostName.isName host then .ok ()
  else .error (.noHostName (.ofList host))

/-- The port that a scheme has of its own. -/
def defaultPort? : String → Option Int
  | "ftp" => some 21
  | "http" => some 80
  | "https" => some 443
  | "ws" => some 80
  | "wss" => some 443
  | _ => none

/-- The port of an address, if it is not the one of its scheme. -/
def readPort (scheme : String) (text : List Char) : Except Problem (Option Int) :=
  if text.isEmpty then .ok none
  else match Host.portNumber? text with
    | none => .error (.noPort (.ofList text))
    | some n => .ok (if defaultPort? scheme == some n then none else some n)

def readAuthority (scheme : String) (text : List Char) : Except Problem Authority := do
  let (user, rest) := (splitAtLast? '@' text).getD ([], text)
  let (host, rest) := splitHost rest
  checkHost host
  let port ← readPort scheme (if rest.head? == some ':' then rest.tail else rest)
  return ⟨user.dropLast, host, port⟩

def Authority.isEmpty (a : Authority) : Bool := a.user.isEmpty && a.host.isEmpty && a.port.isNone

/-! ## Paths -/

/-- Adds a segment to those before it, the last of which stands first. Two dots take one back,
but not the one in front of the first slash. -/
def addSegment (done : List (List Char)) (segment : List Char) : List (List Char) :=
  if segment = ['.'] then done
  else if segment = ['.', '.'] then if done = [[]] then done else done.tail
  else segment :: done

/-- Resolves the segments of a path that are dots. -/
def withoutDots (path : List Char) : List Char :=
  ['/'].intercalate ((path.splitOn '/').foldl addSegment []).reverse

/-- Replaces the escapes of ASCII characters. The service has no path with any other. -/
def unescape : List Char → List Char
  | '%' :: a :: b :: rest =>
    match (Text.hexPair? a b).filter (· < 0x80) with
    | some code => .ofNat code :: unescape rest
    | none => '%' :: unescape (a :: b :: rest)
  | c :: rest => c :: unescape rest
  | [] => []

/-- How long a text is with every byte escaped that is not ASCII or is in a list. -/
def escapedLength (special : List Char) (text : List Char) : Nat :=
  text.foldl (fun n c =>
    n + if c.toNat < 0x80 && !special.contains c then 1 else 3 * c.utf8Size) 0

/-! ## Following an address -/

def checkText (address : List Char) : Except Problem Unit :=
  if maxLength < address.length then .error .tooLong
  else match address.findIdx? isControl with
    | some position => .error (.unprintable (address.getD position ' ') position)
    | none => .ok ()

/-- Checks the path of an address that has no scheme and no authority. -/
def checkRelative (path : List Char) : Except Problem Unit :=
  match path with
  | '/' :: '/' :: _ => .error .doubleSlash
  | ':' :: _ => .error .colon
  | _ => .ok ()

/-- Lets a path start at the root of the service. -/
def rooted (path query : List Char) : Except Problem (List Char) :=
  let path := '/' :: path.dropWhile (· == '/')
  if maxLength < escapedLength [' ', '"', '<', '>', '\x60', '\x7b', '\x7d'] path then
    .error (.partTooLong "path")
  else if maxLength < escapedLength [' ', '"', '<', '>'] query then .error (.partTooLong "query")
  else .ok path

/-- Checks the scheme of an address that says where the service is. -/
def checkScheme (scheme : String) : Except Problem Unit :=
  if scheme ∈ ["http", "https", "ws", "wss"] then .ok () else .error (.unknownScheme scheme)

/-- The path that an address leads to. It starts at the root, unless the address says where
the service is. -/
def path (address : String) : Except Problem (List Char) := do
  checkText address.toList
  let (scheme, rest) := splitScheme address.toList
  let scheme := (String.ofList scheme).toLower
  let (authority, rest) := splitAuthority rest
  let authority ← readAuthority scheme authority
  let path := rest.takeWhile inPath
  let path ←
    if scheme.isEmpty && authority.isEmpty then (checkRelative path).map fun _ => path
    else .ok (withoutDots path)
  let path ←
    if scheme.isEmpty || authority.host.isEmpty then
      rooted path ((rest.dropWhile inPath).takeWhile inQuery).tail
    else (checkScheme scheme).map fun _ => path
  return unescape (unescape (withoutDots path))

end ExactCalc.Service.Address
