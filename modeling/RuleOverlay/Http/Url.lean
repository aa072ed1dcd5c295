import RuleOverlay.Http.Domain
/-! # URLs

Absolute URLs read and written the way web clients do. Reading removes tabs and line breaks,
trims control characters and spaces at both ends, and needs a scheme. For the special schemes
(`http`, `https`, `ws`, `wss`, `ftp`, `file`) the slashes after the scheme are optional and
backslashes count as slashes; the host is lower-cased and checked, an IPv4 address may be
written in parts or in hex or octal, an IPv6 address sits in brackets, and a port equal to the
scheme's default is dropped. The path has its `.` and `..` segments resolved. Characters
outside the allowed set of each part are percent-encoded as UTF-8.

Writing gives `scheme://userinfo@host:port/path?query#fragment` with the parts that are
present, so a URL reads back to itself.
-/
namespace RuleOverlay

namespace Http

/-- Why a text is not a URL. -/
inductive UrlError where
  | emptyHost
  | invalidPort
  | invalidIpv4
  | invalidIpv6
  | invalidDomainCharacter
  | invalidDomain
  | relativeWithoutBase
  deriving DecidableEq, Repr

def UrlError.text : UrlError → String
  | .emptyHost => "empty host"
  | .invalidPort => "invalid port number"
  | .invalidIpv4 => "invalid IPv4 address"
  | .invalidIpv6 => "invalid IPv6 address"
  | .invalidDomainCharacter => "invalid domain character"
  | .invalidDomain => "invalid international domain name"
  | .relativeWithoutBase => "relative URL without a base"

/-- A parsed URL. -/
structure Url where
  scheme : String
  /-- `user` or `user:password`, percent-encoded, empty when absent -/
  userinfo : String
  /-- the serialized host, `none` for a URL without authority -/
  host : Option String
  port : Option Nat
  path : String
  query : Option String
  fragment : Option String
  deriving DecidableEq, Repr

namespace Url

def defaultPort : String → Option Nat
  | "http" => some 80
  | "https" => some 443
  | "ws" => some 80
  | "wss" => some 443
  | "ftp" => some 21
  | _ => none

def isSpecial (scheme : String) : Bool :=
  scheme == "http" || scheme == "https" || scheme == "ws" || scheme == "wss" ||
    scheme == "ftp" || scheme == "file"

def hexDigit (n : Nat) : Char := "0123456789ABCDEF".toList.getD n '0'

def utf8 (c : Char) : List Nat :=
  let n := c.toNat
  if n < 0x80 then [n]
  else if n < 0x800 then [0xC0 + n / 64, 0x80 + n % 64]
  else if n < 0x10000 then [0xE0 + n / 4096, 0x80 + n / 64 % 64, 0x80 + n % 64]
  else [0xF0 + n / 262144, 0x80 + n / 4096 % 64, 0x80 + n / 64 % 64, 0x80 + n % 64]

def encodeChar (encode : Char → Bool) (c : Char) : String :=
  if encode c then
    String.join ((utf8 c).map fun b => String.ofList ['%', hexDigit (b / 16), hexDigit (b % 16)])
  else String.singleton c

def encodeWith (encode : Char → Bool) (cs : List Char) : String :=
  String.join (cs.map (encodeChar encode))

def c0Set (c : Char) : Bool := c.toNat < 0x20 || c.toNat > 0x7E

def fragmentSet (c : Char) : Bool := c0Set c || c == ' ' || c == '"' || c == '<' || c == '>' || c == '`'

def querySet (special : Bool) (c : Char) : Bool :=
  c0Set c || c == ' ' || c == '"' || c == '#' || c == '<' || c == '>' || (special && c == '\'')

def pathSet (c : Char) : Bool :=
  querySet false c || c == '?' || c == '`' || c.toNat == 0x7B || c.toNat == 0x7D

def userinfoSet (c : Char) : Bool :=
  pathSet c || c == '/' || c == ':' || c == ';' || c == '=' || c == '@' || c == '[' ||
    c == '\\' || c == ']' || c == '^' || c == '|'

def forbiddenHost (c : Char) : Bool :=
  c == '\x00' || c == '\t' || c == '\n' || c == '\r' || c == ' ' || c == '#' || c == '/' ||
    c == ':' || c == '<' || c == '>' || c == '?' || c == '@' || c == '[' || c == '\\' ||
    c == ']' || c == '^' || c == '|'

def hexValue (c : Char) : Option Nat :=
  if c.isDigit then some (c.toNat - 48)
  else if 'a' ≤ c && c ≤ 'f' then some (c.toNat - 87)
  else if 'A' ≤ c && c ≤ 'F' then some (c.toNat - 55)
  else none

def percentBytes : List Char → Bytes
  | '%' :: a :: b :: rest =>
    match hexValue a, hexValue b with
    | some x, some y => (x * 16 + y).toUInt8 :: percentBytes rest
    | _, _ => Utf8.encodeChar '%' ++ percentBytes (a :: b :: rest)
  | c :: rest => Utf8.encodeChar c ++ percentBytes rest
  | [] => []

def ipv4Part (s : List Char) : Option Nat :=
  match s with
  | [] => none
  | '0' :: x :: rest =>
    if x == 'x' || x == 'X' then
      if rest.isEmpty then some 0
      else rest.foldl (fun acc c => acc.bind fun n => (hexValue c).map (n * 16 + ·)) (some 0)
    else
      (x :: rest).foldl (fun acc c => acc.bind fun n =>
        if '0' ≤ c && c ≤ '7' then some (n * 8 + (c.toNat - 48)) else none) (some 0)
  | _ => s.foldl (fun acc c => acc.bind fun n =>
        if c.isDigit then some (n * 10 + (c.toNat - 48)) else none) (some 0)

def endsInNumber (host : List Char) : Bool :=
  let parts := (String.ofList host).splitOn "."
  let parts := if parts.getLast? == some "" && parts.length > 1 then parts.dropLast else parts
  match parts.getLast? with
  | none => false
  | some last =>
    (!last.isEmpty && last.all Char.isDigit) || (ipv4Part last.toList).isSome

def parseIpv4 (host : List Char) : Except UrlError String :=
  let parts := (String.ofList host).splitOn "."
  let parts := if parts.getLast? == some "" && parts.length > 1 then parts.dropLast else parts
  if parts.length > 4 then .error .invalidIpv4
  else
    match parts.mapM (fun p => ipv4Part p.toList) with
    | none => .error .invalidIpv4
    | some nums =>
      let n := nums.length
      let front := nums.dropLast
      let last := nums.getLast?.getD 0
      if front.any (· > 255) || last ≥ Nat.pow 256 (5 - n) then .error .invalidIpv4
      else
        let value := front.zipIdx.foldl (fun acc p => acc + p.1 * Nat.pow 256 (3 - p.2)) 0 + last
        .ok (String.intercalate "." [toString (value / 16777216 % 256),
          toString (value / 65536 % 256), toString (value / 256 % 256), toString (value % 256)])

def ipv4Numbers (s : List Char) : Option (List Nat) :=
  let parts := (String.ofList s).splitOn "."
  if parts.length != 4 then none
  else parts.mapM fun p =>
    let cs := p.toList
    if cs.isEmpty || !cs.all Char.isDigit || (cs.length > 1 && cs.head? == some '0') then none
    else
      let n := cs.foldl (fun n c => n * 10 + (c.toNat - 48)) 0
      if n ≤ 255 then some n else none

/-- Reads the pieces of an IPv6 address into `ps` from index `idx`, each of at most four hex
digits and followed by `:` unless it is the last; a second `:` marks where the zeros go, and
an IPv4 address may fill the last two pieces. Answers the pieces, the index after the last
one and the index of the zeros. -/
def ipv6Loop : Nat → List Char → Array Nat → Nat → Option Nat →
    Option (Array Nat × Nat × Option Nat)
  | 0, _, _, _, _ => none
  | _ + 1, [], ps, idx, zeros => some (ps, idx, zeros)
  | fuel + 1, c :: rest, ps, idx, zeros =>
    if idx == 8 then none
    else if c == ':' then
      if zeros.isSome then none else ipv6Loop fuel rest ps (idx + 1) (some (idx + 1))
    else
      let s := c :: rest
      let ds := (s.takeWhile fun d => (hexValue d).isSome).take 4
      let value := ds.foldl (fun n d => n * 16 + (hexValue d).getD 0) 0
      match s.drop ds.length with
      | '.' :: _ =>
        if ds.isEmpty || idx > 6 then none
        else
          match ipv4Numbers s with
          | some [n1, n2, n3, n4] =>
            some ((ps.set! idx (n1 * 256 + n2)).set! (idx + 1) (n3 * 256 + n4), idx + 2, zeros)
          | _ => none
      | ':' :: r => if r.isEmpty then none else ipv6Loop fuel r (ps.set! idx value) (idx + 1) zeros
      | [] => some (ps.set! idx value, idx + 1, zeros)
      | _ => none

/-- Reads an IPv6 address into its eight pieces. A leading `::` must be doubled, and `::`
stands for at least one zero piece. -/
def parseIpv6 (s : List Char) : Option (List Nat) :=
  let start : Option (List Char × Nat × Option Nat) := match s with
    | ':' :: ':' :: rest => some (rest, 1, some 1)
    | ':' :: _ => none
    | _ => some (s, 0, none)
  start.bind fun (rest, idx, zeros) =>
    (ipv6Loop (rest.length + 1) rest (Array.replicate 8 0) idx zeros).bind fun (ps, idx, zeros) =>
      let pieces := ps.toList
      match zeros with
      | some z => some (pieces.take z ++ List.replicate (8 - idx) 0 ++ (pieces.drop z).take (idx - z))
      | none => if idx == 8 then some pieces else none

def longestZeros (pieces : List Nat) : Option (Nat × Nat) :=
  let step (acc : Option (Nat × Nat) × Option (Nat × Nat)) (p : Nat × Nat) :=
    let (best, cur) := acc
    if p.1 == 0 then
      let cur := match cur with
        | some (s, l) => some (s, l + 1)
        | none => some (p.2, 1)
      let best := match best, cur with
        | some (_, bl), some (cs, cl) => if cl > bl then some (cs, cl) else best
        | none, some c => some c
        | b, none => b
      (best, cur)
    else (best, none)
  match (pieces.zipIdx.foldl step (none, none)).1 with
  | some (s, l) => if l ≥ 2 then some (s, l) else none
  | none => none

def hexText (n : Nat) : String := String.ofList (Nat.toDigits 16 n)

def ipv6Text (pieces : List Nat) : String :=
  match longestZeros pieces with
  | none => String.intercalate ":" (pieces.map hexText)
  | some (s, l) =>
    String.intercalate ":" ((pieces.take s).map hexText) ++ "::" ++
      String.intercalate ":" ((pieces.drop (s + l)).map hexText)

def parseBracketed (rest : List Char) : Except UrlError String :=
  if rest.getLast? == some ']' then
    match parseIpv6 rest.dropLast with
    | some pieces => .ok ("[" ++ ipv6Text pieces ++ "]")
    | none => .error .invalidIpv6
  else .error .invalidIpv6

/-- Reads and writes a host of a special scheme: a bracketed IPv6 address, or a domain in
ASCII, which is an IPv4 address when it ends in a number. -/
def parseHost (raw : List Char) : Except UrlError String :=
  match raw with
  | '[' :: rest => parseBracketed rest
  | _ =>
    match Domain.toAscii (percentBytes raw) with
    | none => .error .invalidDomain
    | some domain =>
      if domain.isEmpty then .error .emptyHost
      else if endsInNumber domain.toList then parseIpv4 domain.toList
      else .ok domain

/-- Reads and writes a host of another scheme: a bracketed IPv6 address, or a text without
the characters a host may not hold, with controls and non-ASCII percent-encoded. -/
def parseOpaqueHost (raw : List Char) : Except UrlError String :=
  match raw with
  | '[' :: rest => parseBracketed rest
  | _ =>
    if raw.any forbiddenHost then .error .invalidDomainCharacter
    else .ok (encodeWith c0Set raw)

def isSingleDot (s : String) : Bool := s == "." || s.toLower == "%2e"

def isDoubleDot (s : String) : Bool :=
  let l := s.toLower
  l == ".." || l == ".%2e" || l == "%2e." || l == "%2e%2e"

def splitPath (special : Bool) : List Char → List Char → List String
  | cur, [] => [String.ofList cur.reverse]
  | cur, c :: rest =>
    if c == '/' || (special && c == '\\') then String.ofList cur.reverse :: splitPath special [] rest
    else splitPath special (c :: cur) rest

def isDriveLetter : List Char → Bool
  | [a, b] => a.isAlpha && (b == ':' || b == '|')
  | _ => false

def isNormalDrive (s : String) : Bool :=
  match s.toList with
  | [a, b] => a.isAlpha && b == ':'
  | _ => false

/-- Builds the segments of a path from its parts, each percent-encoded and marked with whether
a separator follows it. `..` takes the last segment off, except a file URL's lone drive letter;
`.` is dropped; either one at the end leaves an empty last segment. In a file URL a drive letter
first in the path is written with `:`, and the answer says that one was found. -/
def buildPath (file : Bool) : List (String × Bool) → List String → Bool → List String × Bool
  | [], path, drive => (path, drive)
  | (seg, more) :: rest, path, drive =>
    if isDoubleDot seg then
      let path := if file && path.length == 1 && path.all isNormalDrive then path else path.dropLast
      buildPath file rest (if more then path else path ++ [""]) drive
    else if isSingleDot seg then
      buildPath file rest (if more then path else path ++ [""]) drive
    else if file && path.isEmpty && isDriveLetter seg.toList then
      buildPath file rest [String.ofList [seg.toList.headD 'c', ':']] true
    else buildPath file rest (path ++ [seg]) drive

def pathSegments (special file : Bool) (raw : List Char) : List String × Bool :=
  let parts := splitPath special [] raw
  let marked := parts.zipIdx.map fun (p, i) => (encodeWith pathSet p.toList, i + 1 < parts.length)
  buildPath file marked [] false

def pathText (segs : List String) : String := String.join (segs.map ("/" ++ ·))

def specialPath (file : Bool) (raw : List Char) : String × Bool :=
  let raw := match raw with
    | c :: rest => if c == '/' || c == '\\' then rest else c :: rest
    | [] => []
  let (segs, drive) := pathSegments true file raw
  (pathText segs, drive)

def plainPath (raw : List Char) : String :=
  match raw with
  | '/' :: rest => pathText (pathSegments false false rest).1
  | _ => ""

def breakAt (stop : Char → Bool) (s : List Char) : List Char × List Char :=
  (s.takeWhile (!stop ·), s.dropWhile (!stop ·))

def tail (special : Bool) (s : List Char) : Option String × Option String :=
  let (q, f) := breakAt (· == '#') s
  let query := match q with
    | '?' :: rest => some (encodeWith (querySet special) rest)
    | _ => none
  let fragment := match f with
    | '#' :: rest => some (encodeWith fragmentSet rest)
    | _ => none
  (query, fragment)

def splitPort : List Char → Bool → List Char → List Char × Option (List Char)
  | [], _, acc => (acc.reverse, none)
  | c :: r, inBrackets, acc =>
    if c == '[' then splitPort r true (c :: acc)
    else if c == ']' then splitPort r false (c :: acc)
    else if c == ':' && !inBrackets then (acc.reverse, some r)
    else splitPort r inBrackets (c :: acc)

def parsePort (scheme : String) : Option (List Char) → Except UrlError (Option Nat)
  | none => .ok none
  | some [] => .ok none
  | some ds =>
    if ds.all Char.isDigit then
      let n := ds.foldl (fun n c => n * 10 + (c.toNat - 48)) 0
      if n > 65535 then .error .invalidPort
      else .ok (if defaultPort scheme == some n then none else some n)
    else .error .invalidPort

def splitUserinfo (authority : List Char) : String × List Char :=
  if authority.contains '@' then
    let rev := authority.reverse
    let hostPort := (rev.takeWhile (· != '@')).reverse
    let userinfo := (rev.dropWhile (· != '@')).drop 1 |>.reverse
    let text := match breakAt (· == ':') userinfo with
      | (u, []) => encodeWith userinfoSet u
      | (u, _ :: p) =>
        if p.isEmpty then encodeWith userinfoSet u
        else encodeWith userinfoSet u ++ ":" ++ encodeWith userinfoSet p
    (text, hostPort)
  else ("", authority)

/-- Reads an authority: its userinfo, host and port. A special scheme needs a host; so does
an authority with userinfo or a port, and a bare `@` followed by more of the URL. -/
def parseAuthority (special : Bool) (scheme : String) (authority : List Char) (atEnd : Bool) :
    Except UrlError (String × String × Option Nat) := do
  let (userinfo, hostPort) := splitUserinfo authority
  if authority.head? == some '@' && hostPort.isEmpty && !atEnd then throw .emptyHost
  let (hostRaw, portRaw) := splitPort hostPort false []
  if hostRaw.isEmpty && (special || portRaw.isSome || !userinfo.isEmpty) then throw .emptyHost
  let host ← if special then parseHost hostRaw else parseOpaqueHost hostRaw
  let port ← parsePort scheme portRaw
  return (userinfo, host, port)

def isSlash (c : Char) : Bool := c == '/' || c == '\\'

def fileUrl (host : String) (more : List Char) : Url :=
  let (pathRaw, t) := breakAt (fun c => c == '?' || c == '#') more
  let (query, fragment) := tail true t
  let (path, drive) := specialPath true pathRaw
  ⟨"file", "", some (if drive then "" else host), none, path, query, fragment⟩

/-- Reads what follows `file:`: a host after two slashes, where `localhost` is no host
and a drive letter starts the path, and then the path. -/
def parseFile (rest : List Char) : Except UrlError Url :=
  match rest with
  | a :: b :: r =>
    if isSlash a && isSlash b then
      let (hostRaw, more) := breakAt (fun c => isSlash c || c == '?' || c == '#') r
      if isDriveLetter hostRaw then .ok (fileUrl "" (hostRaw ++ more))
      else if hostRaw.isEmpty then .ok (fileUrl "" more)
      else do
        let host ← parseHost hostRaw
        return fileUrl (if host == "localhost" then "" else host) more
    else .ok (fileUrl "" rest)
  | _ => .ok (fileUrl "" rest)

def parse (text : String) : Except UrlError Url := do
  let cs := text.toList.filter (fun c => c != '\t' && c != '\n' && c != '\r')
  let cs := (cs.dropWhile (·.toNat ≤ 0x20)).reverse.dropWhile (·.toNat ≤ 0x20) |>.reverse
  let (schemeChars, afterScheme) :=
    breakAt (fun c => !(c.isAlphanum || c == '+' || c == '-' || c == '.')) cs
  match schemeChars, afterScheme with
  | first :: _, ':' :: rest =>
    if !first.isAlpha then throw .relativeWithoutBase
    let scheme := String.ofList (schemeChars.map Char.toLower)
    if scheme == "file" then parseFile rest
    else if isSpecial scheme then
      let rest := rest.dropWhile isSlash
      let (authority, more) := breakAt (fun c => isSlash c || c == '?' || c == '#') rest
      let (userinfo, host, port) ← parseAuthority true scheme authority more.isEmpty
      let (pathRaw, t) := breakAt (fun c => c == '?' || c == '#') more
      let (query, fragment) := tail true t
      return ⟨scheme, userinfo, some host, port, (specialPath false pathRaw).1, query, fragment⟩
    else
      match rest with
      | '/' :: '/' :: r =>
        let (authority, more) := breakAt (fun c => c == '/' || c == '?' || c == '#') r
        let (userinfo, host, port) ← parseAuthority false scheme authority more.isEmpty
        let (pathRaw, t) := breakAt (fun c => c == '?' || c == '#') more
        let (query, fragment) := tail false t
        return ⟨scheme, userinfo, some host, port, plainPath pathRaw, query, fragment⟩
      | _ =>
        let (pathRaw, t) := breakAt (fun c => c == '?' || c == '#') rest
        let (query, fragment) := tail false t
        match pathRaw with
        | '/' :: _ =>
          -- a path that starts with an empty segment is kept apart from an authority
          let path := plainPath pathRaw
          let path := if path.startsWith "//" then "/." ++ path else path
          return ⟨scheme, "", none, none, path, query, fragment⟩
        | _ => return ⟨scheme, "", none, none, encodeWith c0Set pathRaw, query, fragment⟩
  | _, _ => throw .relativeWithoutBase

/-- The URL a client sends, without credentials: the userinfo goes when its user name decodes
as UTF-8 and there is a user name or a password that decodes. -/
def withoutCredentials (u : Url) : Url :=
  match u.host with
  | none => u
  | some _ =>
    let (user, pass) := breakAt (· == ':') u.userinfo.toList
    match Utf8.decode? (percentBytes user) with
    | none => u
    | some name =>
      let password := match pass with
        | _ :: p => Utf8.decode? (percentBytes p)
        | [] => none
      if !name.isEmpty || password.isSome then { u with userinfo := "" } else u

def hasHost (u : Url) : Bool :=
  match u.host with
  | some h => !h.isEmpty
  | none => false

def render (u : Url) : String :=
  let authority := match u.host with
    | some h =>
      "//" ++ (if u.userinfo.isEmpty then "" else u.userinfo ++ "@") ++ h ++
        (match u.port with
          | some p => ":" ++ toString p
          | none => "")
    | none => ""
  u.scheme ++ ":" ++ authority ++ u.path ++
    (match u.query with
      | some q => "?" ++ q
      | none => "") ++
    (match u.fragment with
      | some f => "#" ++ f
      | none => "")

end Url

end Http

end RuleOverlay
