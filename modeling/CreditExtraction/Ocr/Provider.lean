import CreditExtraction.Ocr.Azure
import CreditExtraction.Ocr.Tesseract
import CreditExtraction.Ocr.Normalize
import CreditExtraction.Service.Settings

/-!
# Choosing the OCR backend

The settings name the backend: `azure` (or none) for the cloud document-analysis service,
`tesseract` for the offline engine built on command line tools. Any other name is refused as
`invalid input: unknown OCR backend "<name>"`; names are compared as written. The normalizer
takes its thresholds from the same settings.
-/

namespace CreditExtraction.Ocr

/-- An OCR backend with its settings. -/
inductive Backend where
  | cloud (s : AzureSettings)
  | tools (s : TesseractSettings)
deriving Inhabited

/-- The name of a backend. -/
def Backend.name : Backend → String
  | .cloud _ => "azure"
  | .tools _ => "tesseract"

/-- The backend the settings name. -/
def backendOf (s : OcrSettings) : Except Failure Backend :=
  match s.backend with
  | "azure" | "" => .ok (.cloud ⟨s.endpoint, s.apiKey, s.apiVersion, s.model⟩)
  | "tesseract" =>
    .ok (.tools { tesseract := s.tesseract, pdftoppm := s.pdftoppm, lang := s.tesseractLang, dpi := s.dpi })
  | b => .error (Failure.tagged .invalidInput ("unknown OCR backend " ++ Text.Quoted.quote b))

/-- The normalizer of the settings. -/
def normalizerOf (s : OcrSettings) : Normalizer := ⟨s.minConfidence, s.rowTolerance, s.gapTolerance⟩

end CreditExtraction.Ocr
