import CreditExtraction.Failure
import CreditExtraction.Text.Uuid
import CreditExtraction.Text.Quoted
import CreditExtraction.Digest.Sha256

/-!
# Artifact keys

Every document leaves a trail of artifacts, one per stage of the fixed order: the raw upload,
the raw and the cleaned OCR lines, the extraction of the language model, and the rendered
field map. An artifact is addressed by its document, its stage and its content kind (`json`,
`png`, an extension); its object name puts the stage's directory first:
`ocr-clean/<document>.json`.

A key can be stored only when it names a document, a known stage and a kind of one lower-case
letter or digit followed by at most fifteen of letters, digits, `.`, `_` and `-`.
-/

namespace CreditExtraction.Artifact

/-- A stage of the artifact order, by its stored name (unknown names included). -/
structure Stage where
  name : String
deriving Repr, DecidableEq, Inhabited

namespace Stage

/-- The known stages, in order. -/
def order : List String := ["RAW", "OCR_RAW", "OCR_CLEAN", "LLM_EXTRACTED", "VISUALIZED"]

/-- The raw upload. -/
def raw : Stage := ⟨"RAW"⟩
/-- The OCR lines as recognised. -/
def ocrRaw : Stage := ⟨"OCR_RAW"⟩
/-- The OCR lines after normalisation. -/
def ocrClean : Stage := ⟨"OCR_CLEAN"⟩
/-- The model's extraction. -/
def llmExtracted : Stage := ⟨"LLM_EXTRACTED"⟩
/-- The rendered field map. -/
def visualized : Stage := ⟨"VISUALIZED"⟩

/-- The position of a stage in the order, `-1` when unknown. -/
def index (s : Stage) : Int := (order.idxOf? s.name).map (Int.ofNat) |>.getD (-1)

/-- Is the stage known? -/
def valid (s : Stage) : Bool := s.index ≥ 0

/-- Does `s` come strictly before `o` (both known)? -/
def before (s o : Stage) : Bool := s.valid && o.valid && s.index < o.index

/-- The directory of a stage's objects, empty when unknown. -/
def dir (s : Stage) : String :=
  match s.name with
  | "RAW" => "raw"
  | "OCR_RAW" => "ocr-raw"
  | "OCR_CLEAN" => "ocr-clean"
  | "LLM_EXTRACTED" => "llm-extracted"
  | "VISUALIZED" => "visualized"
  | _ => ""

end Stage

/-- The address of one artifact. -/
structure Key where
  document : Uuid
  stage : Stage
  kind : String
deriving Repr, DecidableEq, Inhabited

namespace Key

/-- The text of a key: `<document>/<stage>/<kind>`. -/
def text (k : Key) : String := k.document.toText ++ "/" ++ k.stage.name ++ "/" ++ k.kind

/-- The object name below the store's root: `<dir>/<document>.<kind>`. -/
def objectName (k : Key) : String := k.stage.dir ++ "/" ++ k.document.toText ++ "." ++ k.kind

/-- Is a kind storable (see the module comment)? -/
def kindOk (kind : String) : Bool :=
  let isLowerDigit := fun (c : Char) => ('a' ≤ c && c ≤ 'z') || ('0' ≤ c && c ≤ '9')
  match kind.toList with
  | c :: rest => isLowerDigit c && rest.length ≤ 15 &&
      rest.all fun d => isLowerDigit d || d == '.' || d == '_' || d == '-'
  | [] => false

/-- Checks that a key can be stored. -/
def validate (k : Key) : Except Failure Unit := do
  if k.document == Uuid.nil then throw (.tagged .invalidInput "artifact key without document id")
  if !k.stage.valid then
    throw (.tagged .invalidInput ("unknown artifact stage " ++ Text.Quoted.quote k.stage.name))
  if !kindOk k.kind then
    throw (.tagged .invalidInput ("bad content kind " ++ Text.Quoted.quote k.kind))

end Key

/-- A stored artifact: its key, where the store keeps it, its digest and its size. -/
structure Stored where
  key : Key
  locator : String
  sha256 : String
  size : Nat
deriving Repr, Inhabited

/-- The hexadecimal SHA-256 digest of content. -/
def hash (data : ByteArray) : String := Digest.sha256Hex data

/-- Checks content against the digest recorded when it was written; an artifact without a
digest accepts anything. -/
def verifyHash (data : ByteArray) (a : Stored) : Except Failure Unit :=
  if a.sha256 == "" then .ok ()
  else
    let got := hash data
    if got != a.sha256 then
      .error (.plain ("artifact " ++ a.key.text ++ ": hash mismatch: have " ++ got ++ " want " ++ a.sha256))
    else .ok ()

end CreditExtraction.Artifact
