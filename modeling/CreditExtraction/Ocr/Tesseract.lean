import CreditExtraction.Ocr.Tsv
import CreditExtraction.Failure
import CreditExtraction.Text.Integer
import CreditExtraction.Text.CharClass
import CreditExtraction.Text.Quoted
import CreditExtraction.Text.Utf8
import CreditExtraction.Log.Record

/-!
# The offline OCR engine

The offline engine reads documents with two command line tools, in a directory of its own. A
PDF (MIME type exactly `application/pdf`) is rasterised with `pdftoppm` into the page images
`page-*.png`, taken in name order and then, stably, by page number; a rasteriser that leaves
none fails as a malformed document. An image (MIME type `image/…`) is written as the one page.
Any other MIME type is refused as a malformed document.

Each page image is then read with `tesseract <image> stdout -l <lang> … tsv`, whose word table
becomes the page's raw lines. A command that fails is reported by what became of the call: a
timeout, a cancellation, or `service error 500: <command>: <message>`. The engine logs every
command that fails (`ocr.exec.failed`) and, once a document is read, its pages and lines
(`ocr.tesseract.done`).
-/

namespace CreditExtraction.Ocr

/-- The engine's settings; empty or non-positive values take the defaults of `resolved`. -/
structure TesseractSettings where
  tesseract : String := ""
  pdftoppm : String := ""
  lang : String := ""
  dpi : Int := 0
  maxPages : Int := 0
  tessdataDir : String := ""
  psm : Int := 0
deriving Inhabited

/-- The settings with their defaults filled in: the tools found by their plain names,
German and English as languages and 300 dots per inch. -/
def TesseractSettings.resolved (s : TesseractSettings) : TesseractSettings :=
  { s with
    tesseract := if s.tesseract.isEmpty then "tesseract" else s.tesseract
    pdftoppm := if s.pdftoppm.isEmpty then "pdftoppm" else s.pdftoppm
    lang := if s.lang.isEmpty then "deu+eng" else s.lang
    dpi := if s.dpi ≤ 0 then 300 else s.dpi }

/-- What became of the call that ran a command, once the command has ended. -/
inductive CallState where
  | running
  | expired
  | canceled
deriving DecidableEq, Inhabited

/-- The end of one command: its output, its error output, its failure if it failed, and the
state of the call. -/
structure CommandRun where
  stdout : ByteArray
  stderr : ByteArray
  failure : Option String
  state : CallState
deriving Inhabited

/-- Where the engine works: its directory, how files are written there, how commands run,
which entries the directory holds, and where the engine logs. -/
structure Workshop (m : Type → Type) where
  dir : String
  write : String → ByteArray → m Unit
  run : String → List String → m CommandRun
  entries : m (List String)
  log : Log.Record → m Unit

/-- The failure of a command's run, if it failed (see the module comment). -/
def CommandRun.failureOf (name : String) (r : CommandRun) : Option Failure :=
  r.failure.map fun err =>
    match r.state with
    | .expired => Failure.tagged .timeout name
    | .canceled => .cause .contextCanceled
    | .running =>
      let msg := Text.CharClass.trimSpace (Text.Utf8.lossyOfBytes r.stderr)
      .service 500 (name ++ ": " ++ (if msg.isEmpty then err else msg))

/-- The arguments that read one page image as a word table. -/
def tsvArguments (s : TesseractSettings) (image : String) : List String :=
  [image, "stdout", "-l", s.lang] ++
    (if s.psm > 0 then ["--psm", toString s.psm] else []) ++
    (if s.tessdataDir.isEmpty then [] else ["--tessdata-dir", s.tessdataDir]) ++ ["tsv"]

/-- The arguments that rasterise a PDF into images named after an output prefix. -/
def rasterArguments (s : TesseractSettings) (input outputPrefix : String) : List String :=
  ["-r", toString s.dpi, "-png"] ++
    (if s.maxPages > 0 then ["-l", toString s.maxPages] else []) ++ [input, outputPrefix]

/-- The file extension of an image's MIME type. -/
def imageExtension (mime : String) : String :=
  if mime == "image/jpeg" then ".jpg"
  else if mime == "image/tiff" then ".tif"
  else ".png"

/-- Whether a directory entry is a page image `page-*.png`. -/
def isPageImage (name : String) : Bool :=
  name.startsWith "page-" && name.endsWith ".png" && name.length ≥ 9

/-- The page number of a page image: the digits after the last `-` of its name without the
extension. Digits beyond the range of a 64-bit integer give its bound; anything else gives 0. -/
def pageNumber (name : String) : Int :=
  let stem := String.ofList (name.toList.take (name.length - 4))
  let digits := String.ofList ((stem.toList.reverse.takeWhile (· != '-')).reverse)
  match Text.parseDecimal digits 64 with
  | some n => n
  | none =>
    let (negative, body) := match digits.toList with
      | '-' :: rest => (true, rest)
      | '+' :: rest => (false, rest)
      | cs => (false, cs)
    if body.isEmpty || !body.all Char.isDigit then 0
    else if negative then -(Int.pow 2 63) else Int.pow 2 63 - 1

/-- The page images of a directory's entries, in page order. -/
def pageImages (entries : List String) : List String :=
  ((entries.filter isPageImage).mergeSort (· ≤ ·)).mergeSort fun a b => pageNumber a ≤ pageNumber b

variable {m : Type → Type} [Monad m]

/-- The most of a command's error output that is logged. -/
def stderrLimit : Nat := 8192

/-- A command's error output as logged: cut to `stderrLimit` bytes, the cut marked. -/
def loggedStderr (err : ByteArray) : String :=
  if err.size ≤ stderrLimit then Text.Utf8.lossyOfBytes err
  else Text.Utf8.lossyOfBytes (err.extract 0 stderrLimit) ++ "...(truncated)"

/-- Runs a command, giving its output or its failure; a failed command is logged. -/
def runTool (w : Workshop m) (name : String) (args : List String) : ExceptT Failure m ByteArray := do
  let r ← (w.run name args : m CommandRun)
  match r.failure with
  | some err =>
    (w.log ⟨.error, "ocr.exec.failed", [Log.text "cmd" name, Log.text "args" (" ".intercalate args),
      Log.int "duration_ms" 0, Log.text "error" err, Log.text "stderr" (loggedStderr r.stderr)]⟩ : m Unit)
  | none =>
    (w.log ⟨.debug, "ocr.exec.ok", [Log.text "cmd" name, Log.int "duration_ms" 0,
      Log.int "stdout_bytes" r.stdout.size]⟩ : m Unit)
  match r.failureOf name with
  | some f => throw f
  | none => pure r.stdout

/-- Rasterises a PDF written to the workshop into its page images, as full paths. -/
def rasterize (w : Workshop m) (s : TesseractSettings) (input : String) : ExceptT Failure m (List String) := do
  let outputPrefix := w.dir ++ "/page"
  discard (runTool w s.pdftoppm (rasterArguments s input outputPrefix))
  let names ← (w.entries : m (List String))
  match pageImages names with
  | [] => throw (Failure.tagged .malformedDocument "pdftoppm produced no pages")
  | pages => pure (pages.map fun n => w.dir ++ "/" ++ n)

/-- The page images of a document of a MIME type, written to the workshop. -/
def pagesOf (w : Workshop m) (s : TesseractSettings) (data : ByteArray) (mime : String) :
    ExceptT Failure m (List String) := do
  if mime == "application/pdf" then
    let input := w.dir ++ "/in.pdf"
    (w.write input data : m Unit)
    rasterize w s input
  else if mime.startsWith "image/" then
    let input := w.dir ++ "/page-1" ++ imageExtension mime
    (w.write input data : m Unit)
    pure [input]
  else throw (Failure.tagged .malformedDocument ("unsupported mime type " ++ Text.Quoted.quote mime))

/-- Reads a document into raw lines, page by page (see the module comment). -/
def analyzeWithTools (w : Workshop m) (settings : TesseractSettings) (data : ByteArray) (mime : String) :
    m (Except Failure (List RawLine)) := ExceptT.run do
  let s := settings.resolved
  let pages ← pagesOf w s data mime
  let perPage ← pages.zipIdx.mapM fun (img, i) => do
    let out ← runTool w s.tesseract (tsvArguments s img)
    let lines := parseTsv (Text.Utf8.lossyOfBytes out) (i + 1)
    (w.log ⟨.debug, "ocr.tesseract.page", [Log.int "page" (i + 1), Log.int "lines" lines.length]⟩ : m Unit)
    pure lines
  let lines := perPage.flatten
  (w.log ⟨.info, "ocr.tesseract.done", [Log.int "pages" pages.length, Log.int "lines" lines.length]⟩ : m Unit)
  pure lines

end CreditExtraction.Ocr
