import RuleOverlay.Http.Url
import RuleOverlay.Text.Blank
import RuleOverlay.Text.Utf8
/-! # HTTP requests

A request is checked in the order a client builds it: the method first (trimmed, upper-cased,
`GET` when empty, otherwise a token without `%` or apostrophe), then the URL, which must name
a host, then each header name and value, in name order. Sending refuses schemes other than
`http` and `https`.

Credentials in the URL become the request's authorization, so the URL the request carries has
none. No network is reachable from here: every request that is well formed fails to connect,
and its error names that URL as written back from its parsed form.
-/
namespace RuleOverlay

namespace Http

/-- A request ready to be sent. -/
structure Request where
  method : String
  url : Url
  headers : List (String × String)
  body : Option String

namespace Request

def isTokenChar (c : Char) : Bool :=
  c.isAlphanum || "!#$%&'*+-.^_`|~".toList.contains c

def isMethodChar (c : Char) : Bool := isTokenChar c && c != '%' && c != '\''

def upperText (c : Char) : String :=
  match c.toNat with
  | 0xDF => "SS"
  | 0x17F => "S"
  | 0x131 => "I"
  | 0xFB00 => "FF"
  | 0xFB01 => "FI"
  | 0xFB02 => "FL"
  | 0xFB03 => "FFI"
  | 0xFB04 => "FFL"
  | 0xFB05 => "ST"
  | 0xFB06 => "ST"
  | _ => String.singleton c.toUpper

def methodOf (raw : String) : Except String String :=
  let m := String.join ((Text.trim raw).toList.map upperText)
  if m.isEmpty then .ok "GET"
  else if m.all isMethodChar then .ok m
  else .error "invalid HTTP method"

def validName (name : String) : Bool := !name.isEmpty && name.all isTokenChar

def validValue (value : String) : Bool :=
  (Utf8.encode value).all fun b => (b ≥ 32 && b != 127) || b == 9

def schemeRefused (u : Url) : String :=
  "builder error for url (" ++ u.render ++ "): URL scheme is not allowed"

def ofParts (url method : String) (headers : List (String × List String)) (body : Option String) :
    Except String Request := do
  let m ← methodOf method
  let u ← match Url.parse url with
    | .ok u => pure u
    | .error e => throw ("builder error: " ++ e.text)
  if !u.hasHost then throw (schemeRefused u)
  let pairs := headers.flatMap fun h => h.2.map fun v => (h.1, v)
  for (n, v) in pairs do
    if !validName n then throw "builder error: invalid HTTP header name"
    if !validValue v then throw "builder error: failed to parse header value"
  return ⟨m, u.withoutCredentials, pairs.map fun p => (p.1.toLower, p.2), body⟩

def send (r : Request) : Except String Bytes :=
  let url := r.url.render
  if r.url.scheme != "http" && r.url.scheme != "https" then .error (schemeRefused r.url)
  else
    .error ("error sending request for url (" ++ url ++
      "): error trying to connect: tcp connect error: Network is unreachable (os error 101)")

end Request

end Http

end RuleOverlay
