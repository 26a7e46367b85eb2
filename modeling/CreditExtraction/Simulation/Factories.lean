import CreditExtraction.Ocr.Provider
import CreditExtraction.Log.Handler
import CreditExtraction.Simulation.Request
import CreditExtraction.Simulation.Views

/-!
# Building the service's parts

A factory session builds, from its `ocr` settings, the OCR backend (shown by name, or the
failure) and the normalizer (its thresholds), and, from its `logger` settings, a log of a
format and level to which it writes the given records. Record attributes are written in the
order of their keys; numbers given as attributes are floats. Times in JSON lines are shown as
`<time>`.
-/

namespace CreditExtraction.Simulation

/-- The OCR settings of a request, by their field names. -/
def ocrSettingsOf (j : Json) : OcrSettings :=
  { backend := j.getStrD "Backend", endpoint := j.getStrD "Endpoint", apiKey := j.getStrD "APIKey",
    apiVersion := j.getStrD "APIVersion", model := j.getStrD "Model", timeout := intArg j "Timeout" 0,
    pollInterval := intArg j "PollInterval" 0, minConfidence := floatArg j "MinConfidence" 0,
    rowTolerance := floatArg j "RowTolerance" 0, gapTolerance := floatArg j "GapTolerance" 0,
    tesseract := j.getStrD "Tesseract", pdftoppm := j.getStrD "Pdftoppm", tesseractLang := j.getStrD "TesseractLang",
    dpi := intArg j "DPI" 0 }

/-- An attribute value given as JSON. -/
def logValueOf : Json → Log.Value
  | .str s => .text s
  | .num lit => .float (Json.numFloat lit)
  | .bool b => .bool b
  | .null => .none
  | j => .doc j

/-- A record given as JSON: level, message and attributes in key order. -/
def logRecordOf (j : Json) : Log.Record :=
  let level : Log.Level := match j.getStrD "level" with
    | "debug" => .debug
    | "warn" => .warn
    | "error" => .error
    | _ => .info
  let attrs := match j.get? "attrs" with
    | some (.obj ms) => (ms.mergeSort fun a b => a.1 ≤ b.1).map fun (k, v) => (k, logValueOf v)
    | _ => []
  { level, msg := j.getStrD "msg", attrs }

/-- Runs a factory session (see the module comment). -/
def runFactorySession (req : Json) : Json :=
  let ocr := match req.get? "ocr" with
    | some j =>
      let s := ocrSettingsOf j
      let n := Ocr.normalizerOf s
      [("ocr", match Ocr.backendOf s with
          | .ok b => Json.str b.name
          | .error e => failureJson e),
       ("normalizer", .obj [("min_confidence", .ofFloat n.minConfidence),
          ("row_tolerance", .ofFloat n.rowTolerance), ("gap_tolerance", .ofFloat n.gapTolerance)])]
    | none => []
  let log := match req.get? "logger" with
    | some j =>
      let h := Log.Handler.ofNames (j.getStrD "format") (j.getStrD "level")
      [("log", Json.str (String.join ((listArg j "records").map fun r => h.write "<time>" (logRecordOf r))))]
    | none => []
  .obj (ocr ++ log)

end CreditExtraction.Simulation
