import CreditExtraction.Net.Url
import CreditExtraction.Text.CharClass

/-!
# HTTP exchanges

A client sends a `Request` over a `Transport` and gets back either a `Reply` or a `Fault`. The
transport is a plain function, so a client is the same code whether the other side is a real
server or a scripted one:

    Request ──transport──▶ Reply | Fault

A fault is what goes wrong before a reply arrives: the connection is refused or dropped, the
request's time runs out, or the client could not even send it. Clients report a fault the way
web clients do, as `<Method> "<url>": <detail>`, for instance
`Post "http://host/x": dial tcp host:80: connect: connection refused`.

Header names are compared without regard to case and stored in their canonical spelling
(`content-type` becomes `Content-Type`).
-/

namespace CreditExtraction.Net

/-- The canonical spelling of a header name: the first letter and every letter after a hyphen
upper case, the others lower case. A name holding a blank or another character that cannot
stand in a header name is kept as it is. -/
def canonicalHeaderKey (name : String) : String :=
  let ok := fun (c : Char) => c.isAlphanum || "!#$%&'*+-.^_|~".toList.contains c
  if !name.toList.all ok then name
  else
    let (out, _) := name.toList.foldl (fun (acc, upper) c =>
      let c' := if upper then c.toUpper else c.toLower
      (acc.push c', c == '-')) ((#[] : Array Char), true)
    String.ofList out.toList

/-- Headers in the order they were set, names in canonical spelling. -/
abbrev Headers := List (String × String)

namespace Headers

/-- The first value of a header, or the empty text. -/
def get (hs : Headers) (name : String) : String :=
  let key := canonicalHeaderKey name
  ((hs.find? (·.1 == key)).map (·.2)).getD ""

/-- Does the header appear at all? -/
def has (hs : Headers) (name : String) : Bool :=
  let key := canonicalHeaderKey name
  hs.any (·.1 == key)

/-- Sets a header, replacing every earlier value of it. -/
def set (hs : Headers) (name value : String) : Headers :=
  let key := canonicalHeaderKey name
  hs.filter (·.1 != key) ++ [(key, value)]

end Headers

/-- The word for a method in a fault's text: `Post`, `Get`, `Put`, `Head`. -/
def methodWord (method : String) : String :=
  match method.toList with
  | [] => ""
  | c :: rest => String.ofList (c.toUpper :: rest.map Char.toLower)

/-- The reason phrase of a status code (empty for an unknown code). -/
def statusText : Nat → String
  | 100 => "Continue"
  | 101 => "Switching Protocols"
  | 102 => "Processing"
  | 103 => "Early Hints"
  | 200 => "OK"
  | 201 => "Created"
  | 202 => "Accepted"
  | 203 => "Non-Authoritative Information"
  | 204 => "No Content"
  | 205 => "Reset Content"
  | 206 => "Partial Content"
  | 207 => "Multi-Status"
  | 208 => "Already Reported"
  | 226 => "IM Used"
  | 300 => "Multiple Choices"
  | 301 => "Moved Permanently"
  | 302 => "Found"
  | 303 => "See Other"
  | 304 => "Not Modified"
  | 305 => "Use Proxy"
  | 307 => "Temporary Redirect"
  | 308 => "Permanent Redirect"
  | 400 => "Bad Request"
  | 401 => "Unauthorized"
  | 402 => "Payment Required"
  | 403 => "Forbidden"
  | 404 => "Not Found"
  | 405 => "Method Not Allowed"
  | 406 => "Not Acceptable"
  | 407 => "Proxy Authentication Required"
  | 408 => "Request Timeout"
  | 409 => "Conflict"
  | 410 => "Gone"
  | 411 => "Length Required"
  | 412 => "Precondition Failed"
  | 413 => "Request Entity Too Large"
  | 414 => "Request URI Too Long"
  | 415 => "Unsupported Media Type"
  | 416 => "Requested Range Not Satisfiable"
  | 417 => "Expectation Failed"
  | 418 => "I'm a teapot"
  | 421 => "Misdirected Request"
  | 422 => "Unprocessable Entity"
  | 423 => "Locked"
  | 424 => "Failed Dependency"
  | 425 => "Too Early"
  | 426 => "Upgrade Required"
  | 428 => "Precondition Required"
  | 429 => "Too Many Requests"
  | 431 => "Request Header Fields Too Large"
  | 451 => "Unavailable For Legal Reasons"
  | 500 => "Internal Server Error"
  | 501 => "Not Implemented"
  | 502 => "Bad Gateway"
  | 503 => "Service Unavailable"
  | 504 => "Gateway Timeout"
  | 505 => "HTTP Version Not Supported"
  | 506 => "Variant Also Negotiates"
  | 507 => "Insufficient Storage"
  | 508 => "Loop Detected"
  | 510 => "Not Extended"
  | 511 => "Network Authentication Required"
  | _ => ""

/-- Where a request goes: scheme, host name, port and the path and query sent. -/
structure Target where
  scheme : String
  hostname : String
  port : Nat
  /-- The host as written in the URL, with its port when the URL gives one. -/
  authority : String
  /-- The path sent; `/` when the URL has none. -/
  path : String
  query : String
deriving Inhabited

/-- The host name and port written in an authority, without user information. -/
def splitAuthority (authority : String) : String × Option String :=
  let cs := authority.toList
  if cs.head? == some '[' then
    match cs.findIdx? (· == ']') with
    | some j =>
      let name := String.ofList ((cs.take j).drop 1)
      match cs.drop (j + 1) with
      | ':' :: ds => (name, some (String.ofList ds))
      | _ => (name, none)
    | none => (authority, none)
  else
    match cs.reverse.findIdx? (· == ':') with
    | some k => (String.ofList (cs.take (cs.length - k - 1)), some (String.ofList (cs.drop (cs.length - k))))
    | none => (authority, none)

/-- The port a scheme uses when the URL names none. -/
def defaultPort (scheme : String) : Nat := if scheme == "https" then 443 else 80

/-- Reads the target of a parsed URL. -/
def Target.ofUrl (u : Url) : Target :=
  let (name, port?) := splitAuthority u.host
  let port := match port? with
    | some p => if p.isEmpty then defaultPort u.scheme else p.toNat!
    | none => defaultPort u.scheme
  { scheme := u.scheme, hostname := Text.CharClass.lowerString name, port, authority := u.host,
    path := if u.path.isEmpty then "/" else u.path, query := u.rawQuery }

/-- A request as the client sends it. -/
structure Request where
  method : String
  /-- The URL as the client wrote it; faults quote it. -/
  url : String
  target : Target
  headers : Headers
  body : ByteArray
deriving Inhabited

/-- A reply as it reaches the client. -/
structure Reply where
  status : Nat
  headers : Headers
  body : ByteArray
  /-- The body breaks off after its bytes. -/
  broken : Bool := false
deriving Inhabited

/-- Why a request got no reply. -/
inductive Fault where
  /-- Nothing listens at the host and port. -/
  | refused (hostname : String) (port : Nat)
  /-- The server closed the connection without answering. -/
  | hangup
  /-- The request's time ran out; `clientLimit` when the client's own limit ended it. -/
  | deadline (clientLimit : Bool)
  /-- The request was cancelled. -/
  | canceled
  /-- The URL's scheme is not one the client speaks. -/
  | unsupportedScheme (scheme : String)
  /-- The URL names no host. -/
  | noHost
  /-- The server holds the request without answering; what ends it is the client's affair. -/
  | stalled
deriving Inhabited, BEq

/-- What went wrong, without the request. -/
def Fault.detail : Fault → String
  | .refused h p => "dial tcp " ++ h ++ ":" ++ toString p ++ ": connect: connection refused"
  | .hangup => "EOF"
  | .deadline false => "context deadline exceeded"
  | .deadline true => "context deadline exceeded (Client.Timeout exceeded while awaiting headers)"
  | .canceled => "context canceled"
  | .unsupportedScheme s => "unsupported protocol scheme " ++ Text.Quoted.quote s
  | .noHost => "http: no Host in request URL"
  | .stalled => "context deadline exceeded"

/-- A fault as clients report it: `<Method> "<url>": <detail>`. -/
def Fault.describe (f : Fault) (method url : String) : String :=
  methodWord method ++ " " ++ Text.Quoted.quote url ++ ": " ++ f.detail

/-- Did the request's time run out? -/
def Fault.isTimeout : Fault → Bool
  | .deadline _ => true
  | _ => false

/-- Sends requests: a reply or a fault for each. -/
abbrev Transport (m : Type → Type) := Request → m (Except Fault Reply)

/-- What ends a request that the server holds: the client's own time limit, the deadline of the
call it belongs to, or nothing (then the call's deadline is taken to end it). -/
inductive TimeLimit where
  | client
  | call
  | none
deriving DecidableEq, Inhabited

/-- Builds a request to a URL; the URL must parse. -/
def Request.make (method url : String) (headers : Headers) (body : ByteArray) : Except String Request := do
  let u ← Url.parse url
  pure { method, url, target := Target.ofUrl u, headers, body }

/-- Sends a request the way a web client does: the scheme must be `http` or `https` and the
URL must name a host; then the transport carries it, and a request the server holds ends when
the time limit does. -/
def send {m : Type → Type} [Monad m] (t : Transport m) (limit : TimeLimit) (req : Request) :
    m (Except Fault Reply) :=
  if req.target.scheme != "http" && req.target.scheme != "https" then
    pure (.error (.unsupportedScheme req.target.scheme))
  else if req.target.hostname.isEmpty then pure (.error .noHost)
  else do
    match ← t req with
    | .error .stalled => pure (.error (.deadline (limit == .client)))
    | r => pure r

/-- Does a byte mark binary data (a control character other than tab, line feed, form feed,
carriage return and escape)? -/
def binaryByte (b : UInt8) : Bool :=
  b ≤ 0x08 || b == 0x0B || (0x0E ≤ b && b ≤ 0x1A) || (0x1C ≤ b && b ≤ 0x1F)

/-- Does `bs` start with the bytes of `sig`? -/
def startsWithBytes (bs : List UInt8) (sig : List UInt8) : Bool := bs.take sig.length == sig

/-- The content type of data guessed from its first bytes, as web servers do for an untyped
body: markup after leading white space (`<?xml`, HTML tags), then signatures of documents and
images, then plain text when no byte looks binary. -/
def sniffContentType (data : ByteArray) : String :=
  let bs := data.toList.take 512
  let lead := bs.dropWhile fun b => b == 0x09 || b == 0x0A || b == 0x0C || b == 0x0D || b == 0x20
  let ascii := fun (s : String) => s.toUTF8.toList
  let upper := lead.map fun b => if 0x61 ≤ b && b ≤ 0x7A then b - 0x20 else b
  let htmlTags := ["<!DOCTYPE HTML", "<HTML", "<HEAD", "<SCRIPT", "<IFRAME", "<H1", "<DIV", "<FONT",
    "<TABLE", "<A", "<STYLE", "<TITLE", "<B", "<BODY", "<BR", "<P", "<!--"]
  let htmlTag := htmlTags.any fun t =>
    let sig := ascii t
    startsWithBytes upper sig && (match upper.drop sig.length with
      | b :: _ => b == 0x20 || b == 0x3E
      | [] => false)
  if htmlTag then "text/html; charset=utf-8"
  else if startsWithBytes lead (ascii "<?xml") then "text/xml; charset=utf-8"
  else if startsWithBytes bs (ascii "%PDF-") then "application/pdf"
  else if startsWithBytes bs (ascii "%!PS-Adobe-") then "application/postscript"
  else if startsWithBytes bs [0xFE, 0xFF] || startsWithBytes bs [0xFF, 0xFE] then "text/plain; charset=utf-16"
  else if startsWithBytes bs [0xEF, 0xBB, 0xBF] then "text/plain; charset=utf-8"
  else if startsWithBytes bs (ascii "GIF87a") || startsWithBytes bs (ascii "GIF89a") then "image/gif"
  else if startsWithBytes bs [0x89, 0x50, 0x4E, 0x47, 0x0D, 0x0A, 0x1A, 0x0A] then "image/png"
  else if startsWithBytes bs [0xFF, 0xD8, 0xFF] then "image/jpeg"
  else if startsWithBytes bs (ascii "BM") then "image/bmp"
  else if startsWithBytes bs (ascii "RIFF") && startsWithBytes (bs.drop 8) (ascii "WEBPVP") then "image/webp"
  else if startsWithBytes bs [0x50, 0x4B, 0x03, 0x04] then "application/zip"
  else if startsWithBytes bs [0x1F, 0x8B, 0x08] then "application/x-gzip"
  else if bs.any binaryByte then "application/octet-stream"
  else "text/plain; charset=utf-8"

/-- Is a content type one of JSON's (`application/json`, `text/json`, `…+json`, …)? -/
def isJsonType (ct : String) : Bool :=
  let ct := Text.CharClass.lowerString ct
  let main := ((ct.splitOn ";").headD "").trimAscii.toString
  (main.startsWith "application/" || main.startsWith "text/") && (main.splitOn "json").length > 1

end CreditExtraction.Net
