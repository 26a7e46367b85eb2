import CreditExtraction.Json.Parse
import CreditExtraction.Text.CharClass
import CreditExtraction.Text.Search

/-!
# Finding the JSON object in a model reply

Models are asked for a bare JSON object but often wrap it in prose or a code fence, or send
only the inner `"extracted_fields": {…}` part. `recoverJson` tries, on the reply without
surrounding white space:

1. the whole text;
2. the body of the first code fence: three backquotes, an optional `json` tag, blanks, then
   the shortest `{…}` that is followed by blanks and the closing fence;
3. the span from the first `{` to the last `}`;
4. after the first `"extracted_fields"` key, the object that starts at its brace and ends at
   the matching brace (braces inside strings do not count), wrapped into a whole reply with an
   empty `missing_fields` list.

A candidate counts when it is a JSON document whose value is an object or `null`.
-/

namespace CreditExtraction.Llm

/-- Does the text read as a JSON object (or `null`)? -/
def isObject (s : String) : Bool :=
  match Json.parse s with
  | .ok (.obj _) | .ok .null => true
  | _ => false

/-- The blanks of patterns: tab, newline, form feed, return and space. -/
def isPatternBlank (c : Char) : Bool := c == '\t' || c == '\n' || c == '\x0c' || c == '\r' || c == ' '

/-- The three backquotes of a code fence. -/
def fence : List Char := List.replicate 3 (Char.ofNat 96)

/-- The body of a code fence opening at the start of `cs`, if the fence closes. -/
def fenceBody (cs : List Char) : Option (List Char) :=
  if cs.take 3 != fence then none
  else
    let rest := cs.drop 3
    let rest := if rest.take 4 == "json".toList then rest.drop 4 else rest
    let rest := rest.dropWhile isPatternBlank
    match rest with
    | '{' :: _ =>
      -- the shortest body ending in a brace that blanks and a fence follow
      let n := rest.length
      (List.range n).findSome? fun i =>
        if rest[i]? == some '}' && ((rest.drop (i + 1)).dropWhile isPatternBlank).take 3 == fence then
          some (rest.take (i + 1))
        else none
    | _ => none

/-- The body of the first code fence that matches, searching from each position. -/
def firstFence (cs : List Char) : Option (List Char) :=
  (List.range cs.length).findSome? fun i => fenceBody (cs.drop i)

/-- The index of the brace closing the one at the start of `cs` (strings skipped). -/
def matchBrace (cs : List Char) : Option Nat := Id.run do
  let mut depth : Int := 0
  let mut inStr := false
  let mut esc := false
  let mut i := 0
  for c in cs do
    if esc then esc := false
    else if inStr && c == '\\' then esc := true
    else if c == '"' then inStr := !inStr
    else if inStr then pure ()
    else if c == '{' then depth := depth + 1
    else if c == '}' then
      depth := depth - 1
      if depth == 0 then return some i
    i := i + 1
  return none

/-- The start of the brace after the first `"extracted_fields"` key and its colon. -/
def fieldsObjectStart (cs : List Char) : Option Nat :=
  let key := "\"extracted_fields\"".toList
  (List.range cs.length).findSome? fun i =>
    let rest := cs.drop i
    if rest.take key.length != key then none
    else
      let after := (rest.drop key.length).dropWhile isPatternBlank
      match after with
      | ':' :: more =>
        let body := more.dropWhile isPatternBlank
        match body with
        | '{' :: _ => some (cs.length - body.length)
        | _ => none
      | _ => none

/-- The message of a reply without a JSON object. -/
def noJson : String := "no JSON object in model output"

/-- Finds the JSON object in a model reply (see the module comment). -/
def recoverJson (reply : String) : Except String String :=
  let s := Text.CharClass.trimSpace reply
  let cs := s.toList
  if isObject s then .ok s
  else
    let fenced := (firstFence cs).map String.ofList
    match fenced with
    | some body =>
      if isObject body then .ok body else spans cs
    | none => spans cs
where
  /-- Steps 3 and 4 of the module comment. -/
  spans (cs : List Char) : Except String String :=
    let first := Text.firstIndexWhere (· == '{') cs
    let last := Text.lastIndexWhere (· == '}') cs
    let outer := match first, last with
      | some i, some j => if j > i then
          let t := String.ofList (Text.slice cs i (j + 1))
          if isObject t then some t else none
        else none
      | _, _ => none
    match outer with
    | some t => .ok t
    | none =>
      match fieldsObjectStart cs with
      | none => .error noJson
      | some start =>
        match matchBrace (cs.drop start) with
        | some len =>
          let body := String.ofList (Text.slice cs start (start + len + 1))
          if len > 0 && isObject body then
            .ok ("\x7b\"extracted_fields\":" ++ body ++ ",\"missing_fields\":[]\x7d")
          else .error noJson
        | none => .error noJson

end CreditExtraction.Llm
