import CreditExtraction.Json.Value
import CreditExtraction.Text.Base64

/-!
# Reading requests

Scripted sessions are described by JSON requests. These helpers read their members with the
defaults the sessions use: a missing or mistyped member takes the default, a list member is
empty, bytes come from `data_b64` in base64 or else from the text of `data`.
-/

namespace CreditExtraction.Simulation

/-- A member of an object, `null` when missing. -/
def memberOrNull (j : Json) (k : String) : Json := (j.get? k).getD .null

/-- The answer for a request that cannot be served. -/
def badInput (msg : String) : Json := .obj [("error", .str "bad_input"), ("message", .str msg)]

/-- An integer member, or a default. -/
def intArg (j : Json) (k : String) (d : Int) : Int := (j.getInt? k).getD d

/-- A float member, or a default. -/
def floatArg (j : Json) (k : String) (d : Float) : Float := (j.getFloat? k).getD d

/-- A boolean member, or a default. -/
def flagArg (j : Json) (k : String) (d : Bool) : Bool := (j.getBool? k).getD d

/-- A list member, empty when missing. -/
def listArg (j : Json) (k : String) : List Json := (j.getArr? k).getD []

/-- The texts of a list member. -/
def textsArg (j : Json) (k : String) : List String :=
  (listArg j k).filterMap fun | .str s => some s | _ => none

/-- The bytes of a member in base64. -/
def base64Arg (j : Json) (k : String) : Except Json ByteArray :=
  match Text.Base64.decode (j.getStrD k).toUTF8 with
  | .ok bs => .ok bs
  | .error e => .error (badInput (k ++ ": " ++ e))

/-- The bytes of a step: `data_b64` in base64, else the text of `data`. -/
def dataArg (j : Json) : Except Json ByteArray :=
  if j.has "data_b64" then base64Arg j "data_b64" else .ok (j.getStrD "data").toUTF8

end CreditExtraction.Simulation
