import CreditExtraction.Text.Quoted
import CreditExtraction.Text.CharClass
import CreditExtraction.Text.Utf8

/-!
# URLs

`Url.parse` splits a URL into scheme, authority (user information and host), path, query and
fragment, the way web addresses are read by the service's clients:

* a scheme is a letter followed by letters, digits, `+`, `-` or `.`, ended by a colon; a colon
  first is a missing scheme;
* after a scheme, a rest that does not start with `/` is opaque;
* without a scheme, a first path segment with a colon is refused;
* `//` starts the authority, up to the next `/`; its host may carry a numeric port and must not
  hold spaces or other characters that need escaping;
* the user information before the host's `@` may only hold letters, digits and
  `-._:~!$&'()*+,;=%@`;
* `%` escapes must be two hexadecimal digits; control characters are refused anywhere.

`Url.read` gives the bare reason of a failure; `Url.parse` reads `parse "<url>": <reason>`.
The user information splits at its first colon into a user name and a password, both
decoded from their escapes; a query is read as `&`-separated `key=value` pairs, where `+` is a
space and a pair with a `;` or a bad escape is dropped.
-/

namespace CreditExtraction.Net

/-- A parsed URL. -/
structure Url where
  scheme : String
  opaquePart : String
  user : String
  host : String
  path : String
  rawQuery : String
  fragment : String
deriving Repr, Inhabited

/-- The scheme and the rest of a URL, or the reason there is no valid scheme. -/
def splitScheme (s : String) : Except String (String × String) := Id.run do
  let cs := s.toList
  let mut i := 0
  for c in cs do
    if ('a' ≤ c && c ≤ 'z') || ('A' ≤ c && c ≤ 'Z') then pure ()
    else if ('0' ≤ c && c ≤ '9') || c == '+' || c == '-' || c == '.' then
      if i == 0 then return .ok ("", s)
    else if c == ':' then
      if i == 0 then return .error "missing protocol scheme"
      return .ok (String.ofList (cs.take i), String.ofList (cs.drop (i + 1)))
    else return .ok ("", s)
    i := i + 1
  return .ok ("", s)

/-- Is a byte allowed unescaped in a host name? -/
def hostByteOk (c : Char) : Bool :=
  c.isAlphanum || "-._~!$&'()*+,;=:[]<>\"".toList.contains c

/-- Checks the `%` escapes of a text. -/
def checkEscapes (s : String) : Except String Unit := Id.run do
  let cs := s.toList
  let isHex := fun (c : Char) => c.isDigit || ('a' ≤ c && c ≤ 'f') || ('A' ≤ c && c ≤ 'F')
  let mut i := 0
  for _ in [0:cs.length] do
    if i ≥ cs.length then break
    if cs[i]! == '%' then
      if i + 2 ≥ cs.length || !isHex cs[i+1]! || !isHex cs[i+2]! then
        let bad := String.ofList ((cs.drop i).take 3)
        return .error ("invalid URL escape " ++ Text.Quoted.quote bad)
      i := i + 3
    else i := i + 1
  return .ok ()

/-- Checks a host (with an optional port). -/
def checkHost (host : String) : Except String Unit := do
  let cs := host.toList
  if cs.head? == some '[' then
    match cs.findIdx? (· == ']') with
    | none => throw "missing ']' in host"
    | some j =>
      let portPart := cs.drop (j + 1)
      match portPart with
      | [] => pure ()
      | ':' :: ds => if ds.all Char.isDigit then pure () else
          throw ("invalid port " ++ Text.Quoted.quote (String.ofList portPart) ++ " after host")
      | _ => throw ("invalid port " ++ Text.Quoted.quote (String.ofList portPart) ++ " after host")
  else
    let (name, port) := match cs.reverse.findIdx? (· == ':') with
      | some k => (cs.take (cs.length - k - 1), some (cs.drop (cs.length - k - 1)))
      | none => (cs, none)
    match port with
    | some p => if !(p.drop 1).all Char.isDigit then
        throw ("invalid port " ++ Text.Quoted.quote (String.ofList p) ++ " after host")
    | none => pure ()
    checkEscapes (String.ofList name)
    match name.find? fun c => c.toNat < 0x80 && c != '%' && !hostByteOk c with
    | some c => throw ("invalid character " ++ Text.Quoted.quote c.toString ++ " in host name")
    | none => pure ()

/-- Is a character allowed in the user information of a URL? -/
def userinfoCharOk (c : Char) : Bool :=
  c.isAlphanum || "-._:~!$&'()*+,;=%@".toList.contains c

/-- Reads a URL, a failure giving its bare reason (see the module comment). -/
def Url.read (raw : String) : Except String Url :=
  let failed := fun (_ e : String) => e
  let (u, frag) := match raw.splitOn "#" with
    | [] => ("", "")
    | first :: rest => (first, "#".intercalate rest)
  if u.toList.any (fun c => c.toNat < 0x20 || c.toNat == 0x7f) then
    .error (failed u "net/url: invalid control character in URL")
  else if u == "*" then .ok ⟨"", "", "", "", "*", "", frag⟩
  else
    match splitScheme u with
    | .error e => .error (failed u e)
    | .ok (scheme, rest) =>
      let scheme := Text.CharClass.lowerString scheme
      let (rest, query) :=
        if rest.endsWith "?" && (rest.toList.filter (· == '?')).length == 1 then
          (String.ofList rest.toList.dropLast, "")
        else match rest.splitOn "?" with
          | [] => ("", "")
          | first :: more => (first, "?".intercalate more)
      if !rest.startsWith "/" && scheme != "" then .ok ⟨scheme, rest, "", "", "", query, frag⟩
      else if !rest.startsWith "/" && ((rest.splitOn "/").headD "").toList.contains ':' then
        .error (failed u "first path segment in URL cannot contain colon")
      else if rest.startsWith "//" && (scheme != "" || !rest.startsWith "///") then
        let afterSlashes := String.ofList (rest.toList.drop 2)
        let (authority, path) := match afterSlashes.toList.findIdx? (· == '/') with
          | some i => (String.ofList (afterSlashes.toList.take i), String.ofList (afterSlashes.toList.drop i))
          | none => (afterSlashes, "")
        let (user, host) := match authority.toList.reverse.findIdx? (· == '@') with
          | some k => (String.ofList (authority.toList.take (authority.length - k - 1)),
              String.ofList (authority.toList.drop (authority.length - k)))
          | none => ("", authority)
        let userOk : Except String Unit :=
          if authority.toList.contains '@' then
            if !user.toList.all userinfoCharOk then .error "net/url: invalid userinfo"
            else checkEscapes user
          else .ok ()
        match checkHost host *> userOk with
        | .error e => .error (failed u e)
        | .ok _ =>
          match checkEscapes path with
          | .error e => .error (failed u e)
          | .ok _ => .ok ⟨scheme, "", user, host, path, query, frag⟩
      else
        match checkEscapes rest with
        | .error e => .error (failed u e)
        | .ok _ => .ok ⟨scheme, "", "", "", rest, query, frag⟩

/-- Parses a URL, a failure reading `parse "<url>": <reason>`. -/
def Url.parse (raw : String) : Except String Url :=
  let u := (raw.splitOn "#").headD ""
  (Url.read raw).mapError fun e => "parse " ++ Text.Quoted.quote u ++ ": " ++ e

/-- The value of a hexadecimal digit. -/
def hexValue (c : Char) : Option Nat :=
  if c.isDigit then some (c.toNat - 48)
  else if 'a' ≤ c && c ≤ 'f' then some (c.toNat - 87)
  else if 'A' ≤ c && c ≤ 'F' then some (c.toNat - 55)
  else none

/-- The bytes of a text with its `%` escapes decoded (and `+` read as a space when asked), or
nothing when an escape is malformed. -/
def percentDecodeBytes (plusSpace : Bool) : List Char → Option (List UInt8)
  | [] => some []
  | '%' :: a :: b :: rest =>
    match hexValue a, hexValue b with
    | some x, some y => ((x * 16 + y).toUInt8 :: ·) <$> percentDecodeBytes plusSpace rest
    | _, _ => none
  | '%' :: _ => none
  | '+' :: rest => ((if plusSpace then 32 else 43) :: ·) <$> percentDecodeBytes plusSpace rest
  | c :: rest => (c.toString.toUTF8.toList ++ ·) <$> percentDecodeBytes plusSpace rest

/-- A text with its `%` escapes decoded, or nothing when an escape is malformed. -/
def percentDecode (s : String) (plusSpace : Bool) : Option String :=
  (percentDecodeBytes plusSpace s.toList).map fun bs => Text.Utf8.lossy bs

/-- The user name of a URL's user information. -/
def Url.userName (u : Url) : String :=
  let name := (u.user.splitOn ":").headD ""
  (percentDecode name false).getD name

/-- The password of a URL's user information, when it has one. -/
def Url.password? (u : Url) : Option String :=
  match u.user.splitOn ":" with
  | _ :: rest@(_ :: _) => let p := ":".intercalate rest; some ((percentDecode p false).getD p)
  | _ => none

/-- The pairs of a query (see the module comment), in order. -/
def queryPairs (raw : String) : List (String × String) :=
  (raw.splitOn "&").filterMap fun item =>
    if item.isEmpty || item.toList.contains ';' then none
    else
      let (k, v) := match item.splitOn "=" with
        | k :: rest => (k, "=".intercalate rest)
        | [] => ("", "")
      match percentDecode k true, percentDecode v true with
      | some k, some v => some (k, v)
      | _, _ => none

/-- Is the text a URL with a scheme and a host, a fragment or an opaque part (file URLs with a
path count too)? -/
def isUrl (s : String) : Bool :=
  let s := Text.CharClass.lowerString s
  if s == "" then false
  else if s.startsWith "file:/" then (Url.parse s).toBool
  else match Url.parse s with
    | .ok u => u.scheme != "" && (u.host != "" || u.fragment != "" || u.opaquePart != "")
    | .error _ => false

end CreditExtraction.Net
