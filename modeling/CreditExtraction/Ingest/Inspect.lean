import CreditExtraction.Failure
import CreditExtraction.Image.Header
import CreditExtraction.Pdf.Reader

/-!
# Inspecting uploads

An upload is checked before it is stored: its content must be readable as the kind its
extension names, and the check gives its page count. A PDF file has the page count of its page
tree and must have at least one page; an image has one page and must have a width and a height.
An image is recognised by its content, so a JPEG file named `.png` passes. Other extensions are
refused. The extension is taken as given (no case folding).
-/

namespace CreditExtraction.Ingest

/-- The extensions of images. -/
def imageExtensions : List String := ["png", "jpg", "jpeg", "tif", "tiff"]

/-- The page count of an upload of the given extension. -/
def inspect (ext : String) (data : ByteArray) : Except Failure Int :=
  if ext == "pdf" then
    match Pdf.pageCount data with
    | .error e => .error (Failure.tagged .malformedDocument ("pdf: " ++ Pdf.ByteText.toText e))
    | .ok n =>
      if n < 1 then .error (Failure.tagged .malformedDocument "pdf has no pages") else .ok n
  else if imageExtensions.contains ext then
    match Image.decodeConfig data with
    | .error e => .error (Failure.tagged .malformedDocument (ext ++ " image: " ++ e))
    | .ok (f, s) =>
      if s.width == 0 || s.height == 0 then
        .error (Failure.tagged .malformedDocument ("empty " ++ f.name ++ " image"))
      else .ok 1
  else .error (Failure.tagged .invalidInput ("cannot inspect " ++ Text.Quoted.quote ext))

end CreditExtraction.Ingest
