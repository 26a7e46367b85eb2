import CreditExtraction.Text.CharClass

/-!
# File kinds

Documents are accepted by file extension: PDF and the image formats JPEG, PNG and TIFF. An
extension is compared without surrounding blanks, without a leading dot and with case
ignored. Files and directories whose name starts with a dot are hidden and left alone.
-/

namespace CreditExtraction.Ingest

/-- An extension without surrounding blanks and a leading dot, in lower case. -/
def normalizeExt (ext : String) : String :=
  let t := Text.CharClass.trimSpace ext
  let t := if t.startsWith "." then String.ofList (t.toList.drop 1) else t
  Text.CharClass.lowerString t

/-- The extensions accepted for documents. -/
def allowedExtensions : List String := ["pdf", "jpg", "jpeg", "png", "tif", "tiff"]

/-- Is a document with this extension accepted? -/
def allowedExt (ext : String) : Bool := allowedExtensions.contains (normalizeExt ext)

/-- The media type of an extension. -/
def mimeTypeFor (ext : String) : String :=
  match normalizeExt ext with
  | "pdf" => "application/pdf"
  | "jpg" | "jpeg" => "image/jpeg"
  | "png" => "image/png"
  | "tif" | "tiff" => "image/tiff"
  | "json" => "application/json"
  | _ => "application/octet-stream"

/-- The last element of a slash-separated path: `.` for the empty path, `/` for the root. -/
def baseName (path : String) : String :=
  if path == "" then "."
  else
    let trimmed := (path.toList.reverse.dropWhile (· == '/')).reverse
    if trimmed.isEmpty then "/"
    else String.ofList ((trimmed.reverse.takeWhile (· != '/')).reverse)

/-- The extension of a path with its dot: what follows the last dot of the last element, empty
when that element has no dot. -/
def extensionOf (path : String) : String :=
  let last := (path.toList.reverse.takeWhile (· != '/')).reverse
  if last.contains '.' then
    "." ++ String.ofList ((last.reverse.takeWhile (· != '.')).reverse)
  else ""

/-- Is the file or directory hidden: does its name start with a dot (and is more than `.`)? -/
def isHidden (path : String) : Bool :=
  let base := baseName path
  base != "." && base.startsWith "."

end CreditExtraction.Ingest
