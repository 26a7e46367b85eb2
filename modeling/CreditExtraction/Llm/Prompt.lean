import CreditExtraction.Schema.DocumentType
import CreditExtraction.Ocr.Line

/-!
# Prompts

The model gets two messages. The system message names the document type and lists its fields,
each with its description, its type when it is not text, and the labels it is printed under,
followed by the rules of the reply format. The user message is the document's text, one line
per line with a marker before each new page, cut at a line boundary (with a marker) so that it
stays within a number of bytes.
-/

namespace CreditExtraction.Llm

/-- The default limit of the user message, in bytes. -/
def defaultMaxPromptChars : Nat := 12000

/-- The line of one field in the system message. -/
def fieldLine (f : SchemaField) : String :=
  let d := Text.CharClass.trimSpace f.description
  "- " ++ f.name ++ (if d != "" then ": " ++ d else "") ++
    (if f.rule.type != .string then " (" ++ f.rule.type.name ++ ")" else "") ++
    (if f.aliases.isEmpty then "" else " [labels: " ++ ", ".intercalate f.aliases ++ "]") ++ "\n"

/-- The system message for a document type. -/
def systemPrompt (dt : DocumentType) : String :=
  "\n".intercalate [
    "You are a document processing assistant specializing in credit request forms.",
    "Document type: " ++ dt.name ++ ".",
    "Extract the following fields:\n" ++ String.join (dt.fields.map fieldLine),
    "Return ONLY JSON of the form \x7b\"extracted_fields\": \x7b\"<label>\": \x7b\"value\": \"...\", \"confidence\": 0.95, \"source\": \"label_value\"\x7d\x7d, \"missing_fields\": [\"...\"]\x7d.",
    "Use the field name as the key, or the label exactly as printed in the document when unsure.",
    "Every value is a string. For monetary values give only the number without currency symbols, e.g. \"4.200.000€\" -> \"4200000\".",
    "Use YYYY-MM-DD for dates.",
    "For checkboxes use \"true\" or \"false\", e.g. \"[x] ja\" -> \"true\".",
    "'confidence' is a number between 0 and 1, never null.",
    "'source' is either 'label_value' or 'text_line'.",
    "Only include fields you are confident about; list the others in missing_fields.",
    "Do not wrap the JSON in markdown code blocks or add any text outside it."]

/-- The user message for the lines of a document, within `maxChars` bytes (the default when
not positive). -/
def userPrompt (lines : List Ocr.Line) (maxChars : Int) : String := Id.run do
  let limit : Nat := if maxChars ≤ 0 then defaultMaxPromptChars else maxChars.toNat
  let mut out := "Document content:\n"
  let mut page : Int := 0
  for l in lines do
    if l.page != page then
      page := l.page
      out := out ++ "--- page " ++ toString page ++ " ---\n"
    if out.utf8ByteSize + l.text.utf8ByteSize + 1 > limit then
      out := out ++ "…(truncated)\n"
      break
    out := out ++ l.text ++ "\n"
  return out

end CreditExtraction.Llm
