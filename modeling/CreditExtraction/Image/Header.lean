/-!
# Image headers

The width and height of a PNG, JPEG or TIFF image, read from its header without decoding the
pixels. The format is recognised from the first bytes (`\x89PNG\r\n\x1a\n`, `\xff\xd8`,
`II*\x00` or `MM\x00*`), whatever the file is called.

* PNG: the chunks up to `IHDR` are read and their checksums checked; a paletted image also
  needs its `PLTE` and then a `tRNS` or `IDAT` chunk.
* JPEG: the segments up to the first frame header (`SOF0` to `SOF2`) are read; a JFIF file stops
  there, any other goes on to the start of the scan or the end of the image.
* TIFF: the first image file directory is read and its entries checked.

Each failure is the message of the decoder that stops: `png: invalid format: …`,
`invalid JPEG format: …`, `tiff: unsupported feature: …`, or the end of the data met too soon
(`EOF`, `unexpected EOF`).
-/

namespace CreditExtraction.Image

/-- The size of an image. -/
structure Size where
  width : Nat
  height : Nat
deriving Repr, DecidableEq, Inhabited

/-- A read of image bytes: the position of the next byte, or the failure that stops it. -/
abbrev ByteRead := StateT Nat (Except String)

/-- The end of the data met inside a piece that was started. -/
def unexpectedEof : String := "unexpected EOF"

/-- The next `n` bytes of `data`; a shortfall fails with `unexpected EOF`. -/
def takeBytes (data : ByteArray) (n : Nat) : ByteRead (List UInt8) := do
  let pos ← get
  if pos + n ≤ data.size then
    set (pos + n)
    pure (data.extract pos (pos + n)).toList
  else
    set data.size
    throw unexpectedEof

/-- The next byte of `data`; the end of the data fails with `EOF`. -/
def takeByte (data : ByteArray) : ByteRead UInt8 := do
  let pos ← get
  match data[pos]? with
  | some b =>
    set (pos + 1)
    pure b
  | none => throw "EOF"

/-- The big-endian number of bytes. -/
def bigEndian (bs : List UInt8) : Nat := bs.foldl (fun acc b => acc * 256 + b.toNat) 0

/-- The little-endian number of bytes. -/
def littleEndian (bs : List UInt8) : Nat := bigEndian bs.reverse

/-! ## PNG -/

/-- One step of the CRC-32 remainder (reflected polynomial `0xEDB88320`). -/
def crcStep (c : UInt32) : UInt32 :=
  if c &&& 1 == 1 then (c >>> 1) ^^^ 0xEDB88320 else c >>> 1

/-- The CRC-32 remainder after one more byte. -/
def crcByte (c : UInt32) (b : UInt8) : UInt32 :=
  (List.range 8).foldl (fun c _ => crcStep c) (c ^^^ b.toUInt32)

/-- The CRC-32 checksum (IEEE) of bytes. -/
def crc32 (bs : List UInt8) : UInt32 := (bs.foldl crcByte 0xFFFFFFFF) ^^^ 0xFFFFFFFF

/-- The eight bytes every PNG file starts with. -/
def pngSignature : List UInt8 := [0x89, 0x50, 0x4E, 0x47, 0x0D, 0x0A, 0x1A, 0x0A]

/-- A malformed PNG file. -/
def pngFormat (msg : String) : String := "png: invalid format: " ++ msg

/-- A PNG file using a feature this reader lacks. -/
def pngUnsupported (msg : String) : String := "png: unsupported feature: " ++ msg

/-- How far the chunks of a PNG file have been read. -/
inductive PngStage where
  | start | seenHeader | seenPalette | seenTransparency | seenData
deriving DecidableEq, Inhabited

/-- The order of the stages. -/
def PngStage.rank : PngStage → Nat
  | .start => 0 | .seenHeader => 1 | .seenPalette => 2 | .seenTransparency => 3 | .seenData => 4

/-- The pixel layouts a PNG file may declare. -/
inductive PngLayout where
  | gray | paletted | trueColor | grayAlpha | trueColorAlpha
deriving DecidableEq, Inhabited

/-- The layout of a bit depth and colour type, if the pair is allowed. -/
def pngLayout (depth colorType : Nat) : Option PngLayout :=
  match depth, colorType with
  | 1, 0 | 2, 0 | 4, 0 | 8, 0 | 16, 0 => some .gray
  | 1, 3 | 2, 3 | 4, 3 | 8, 3 => some .paletted
  | 8, 2 | 16, 2 => some .trueColor
  | 8, 4 | 16, 4 => some .grayAlpha
  | 8, 6 | 16, 6 => some .trueColorAlpha
  | _, _ => none

/-- What the header chunk of a PNG file declares. -/
structure PngHeader where
  size : Size
  depth : Nat
  layout : PngLayout

/-- Reads a chunk's checksum and compares it with the checksum of its type and data. -/
def pngChecksum (data : ByteArray) (covered : List UInt8) : ByteRead Unit := do
  let sum ← takeBytes data 4
  if bigEndian sum != (crc32 covered).toNat then throw (pngFormat "invalid checksum")

/-- Reads the data of an `IHDR` chunk of the given length and its checksum. -/
def pngReadHeader (data : ByteArray) (kind : List UInt8) (length : Nat) : ByteRead PngHeader := do
  if length != 13 then throw (pngFormat "bad IHDR length")
  let h ← takeBytes data 13
  let at_ := fun i => (h.getD i 0).toNat
  if at_ 10 != 0 then throw (pngUnsupported "compression method")
  if at_ 11 != 0 then throw (pngUnsupported "filter method")
  if at_ 12 != 0 && at_ 12 != 1 then throw (pngFormat "invalid interlace method")
  let signed := fun (n : Nat) => if n ≥ Nat.pow 2 31 then (n : Int) - Int.pow 2 32 else (n : Int)
  let w := signed (bigEndian (h.take 4))
  let ht := signed (bigEndian ((h.drop 4).take 4))
  if w ≤ 0 || ht ≤ 0 then throw (pngFormat "non-positive dimension")
  if w * ht ≥ Int.pow 2 60 then throw (pngUnsupported "dimension overflow")
  let some layout := pngLayout (at_ 8) (at_ 9)
    | throw (pngUnsupported ("bit depth " ++ toString (at_ 8) ++ ", color type " ++ toString (at_ 9)))
  pngChecksum data (kind ++ h)
  pure ⟨⟨w.toNat, ht.toNat⟩, at_ 8, layout⟩

/-- Reads the data of a `PLTE` chunk and its checksum. -/
def pngReadPalette (data : ByteArray) (kind : List UInt8) (length : Nat) (hdr : PngHeader) :
    ByteRead Unit := do
  let entries := length / 3
  if length % 3 != 0 || entries == 0 || entries > 256 || entries > Nat.pow 2 hdr.depth then
    throw (pngFormat "bad PLTE length")
  let body ← takeBytes data (3 * entries)
  match hdr.layout with
  | .paletted | .trueColor | .trueColorAlpha => pngChecksum data (kind ++ body)
  | _ => throw (pngFormat "PLTE, color type mismatch")

/-- Reads the data of a `tRNS` chunk and its checksum. -/
def pngReadTransparency (data : ByteArray) (kind : List UInt8) (length : Nat) (hdr : PngHeader) :
    ByteRead Unit := do
  let expect : Option Nat := match hdr.layout with
    | .gray => some 2
    | .trueColor => some 6
    | _ => none
  match hdr.layout, expect with
  | .paletted, _ =>
    if length > 256 then throw (pngFormat "bad tRNS length")
    let body ← takeBytes data length
    pngChecksum data (kind ++ body)
  | _, some n =>
    if length != n then throw (pngFormat "bad tRNS length")
    let body ← takeBytes data length
    pngChecksum data (kind ++ body)
  | _, none => throw (pngFormat "tRNS, color type mismatch")

/-- The text of a chunk type. -/
def chunkName (kind : List UInt8) : String := String.ofList (kind.map fun b => Char.ofNat b.toNat)

/-- Reads chunks until the size is known: after `IHDR`, or for a paletted image after `tRNS`
or the first `IDAT`. -/
def pngChunks (data : ByteArray) : Nat → PngStage → Option PngHeader → ByteRead Size
  | 0, _, _ => throw unexpectedEof
  | fuel + 1, stage, hdr => do
    let head ← takeBytes data 8
    let length := bigEndian (head.take 4)
    let kind := head.drop 4
    let paletted := hdr.map (·.layout == .paletted) |>.getD false
    let trueColor := hdr.map (fun h => h.layout == .trueColor || h.layout == .trueColorAlpha) |>.getD false
    let (stage, hdr) ← match chunkName kind, hdr with
      | "IHDR", _ =>
        if stage != .start then throw (pngFormat "chunk out of order")
        let h ← pngReadHeader data kind length
        pure (PngStage.seenHeader, some h)
      | "PLTE", some h =>
        if stage != .seenHeader then throw (pngFormat "chunk out of order")
        pngReadPalette data kind length h
        pure (.seenPalette, hdr)
      | "PLTE", none => throw (pngFormat "chunk out of order")
      | "tRNS", some h =>
        if paletted then
          if stage != .seenPalette then throw (pngFormat "chunk out of order")
        else if trueColor then
          if stage != .seenHeader && stage != .seenPalette then throw (pngFormat "chunk out of order")
        else if stage != .seenHeader then throw (pngFormat "chunk out of order")
        pngReadTransparency data kind length h
        pure (.seenTransparency, hdr)
      | "tRNS", none => throw (pngFormat "chunk out of order")
      | "IDAT", _ =>
        if stage.rank < 1 || (stage == .seenHeader && paletted) then throw (pngFormat "chunk out of order")
        pure (.seenData, hdr)
      | "IEND", _ => throw (pngFormat "chunk out of order")
      | _, _ =>
        if length > 0x7fffffff then throw (pngFormat ("Bad chunk length: " ++ toString length))
        let body ← takeBytes data length
        pngChecksum data (kind ++ body)
        pure (stage, hdr)
    match hdr with
    | some h =>
      if (h.layout == .paletted && stage.rank ≥ 3) || (h.layout != .paletted && stage.rank ≥ 1) then
        pure h.size
      else pngChunks data fuel stage hdr
    | none => pngChunks data fuel stage hdr

/-- The size of a PNG image. -/
def pngSize (data : ByteArray) : Except String Size :=
  (do
    let sig ← takeBytes data 8
    if sig != pngSignature then throw (pngFormat "not a PNG file")
    pngChunks data (data.size / 12 + 2) .start none : ByteRead Size).run' 0

/-! ## JPEG -/

/-- A malformed JPEG file. -/
def jpegFormat (msg : String) : String := "invalid JPEG format: " ++ msg

/-- A JPEG file using a feature this reader lacks. -/
def jpegUnsupported (msg : String) : String := "unsupported JPEG feature: " ++ msg

/-- What the segments read so far declare: the frame's size and components, whether the file
is JFIF, and the progressive flag. -/
structure JpegState where
  size : Size
  components : Nat
  jfif : Bool
  progressive : Bool
deriving Inhabited

/-- Checks the sampling factors of component `i` of a frame of `n` components. -/
def jpegSampling (n i hv : Nat) (first second : Nat × Nat) : Except String (Nat × Nat) := do
  let h := hv / 16
  let v := hv % 16
  if h < 1 || 4 < h || v < 1 || 4 < v then throw (jpegFormat "luma/chroma subsampling ratio")
  let ratio := jpegUnsupported "luma/chroma subsampling ratio"
  if h == 3 || v == 3 then throw ratio
  if n == 1 then return (1, 1)
  if n == 3 then
    if i == 0 && v == 4 then throw ratio
    if i == 1 && (first.1 % h != 0 || first.2 % v != 0) then throw ratio
    if i == 2 && (second.1 != h || second.2 != v) then throw ratio
  if n == 4 then
    if i == 0 && hv != 0x11 && hv != 0x22 then throw ratio
    if (i == 1 || i == 2) && hv != 0x11 then throw ratio
    if i == 3 && (first.1 != h || first.2 != v) then throw ratio
  pure (h, v)

/-- Checks the components of a frame header: distinct identifiers, quantisation tables 0 to 3,
and the sampling factors. -/
def jpegComponents (n : Nat) (body : List UInt8) : Except String Unit := do
  let at_ := fun i => (body.getD i 0).toNat
  let mut ids : List Nat := []
  let mut factors : List (Nat × Nat) := []
  for i in List.range n do
    let c := at_ (6 + 3 * i)
    if ids.contains c then throw (jpegFormat "repeated component identifier")
    ids := ids ++ [c]
    if at_ (8 + 3 * i) > 3 then throw (jpegFormat "bad Tq value")
    let f ← jpegSampling n i (at_ (7 + 3 * i)) (factors.getD 0 (0, 0)) (factors.getD 1 (0, 0))
    factors := factors ++ [f]

/-- Reads a frame header segment of `n` bytes. -/
def jpegFrame (data : ByteArray) (n : Nat) (st : JpegState) : ByteRead JpegState := do
  if st.components != 0 then throw (jpegFormat "multiple SOF markers")
  let comps ← match n with
    | 9 => pure 1
    | 15 => pure 3
    | 18 => pure 4
    | _ => throw (jpegUnsupported "number of components")
  let st := { st with components := comps }
  let body ← takeBytes data n
  let at_ := fun i => (body.getD i 0).toNat
  if at_ 0 != 8 then throw (jpegUnsupported "precision")
  let st := { st with size := ⟨at_ 3 * 256 + at_ 4, at_ 1 * 256 + at_ 2⟩ }
  if at_ 5 != comps then throw (jpegFormat "SOF has wrong length")
  match jpegComponents comps body with
  | .ok () => pure st
  | .error e => throw e

/-- Skips `n` bytes. -/
def skipBytes (data : ByteArray) (n : Nat) : ByteRead Unit := do
  let _ ← takeBytes data n

/-- Reads an application segment of `n` bytes whose first `k` bytes matter. -/
def jpegApp (data : ByteArray) (n k : Nat) : ByteRead (Option (List UInt8)) := do
  if n < k then
    skipBytes data n
    return none
  let head ← takeBytes data k
  if n > k then skipBytes data (n - k)
  pure (some head)

/-- Finds the next marker: bytes up to an `0xff` are passed over, then fill bytes. -/
def jpegMarker (data : ByteArray) : Nat → UInt8 → UInt8 → ByteRead UInt8
  | 0, _, _ => throw "EOF"
  | fuel + 1, a, b =>
    if a != 0xff then do jpegMarker data fuel b (← takeByte data)
    else pure b

/-- Passes over fill bytes `0xff` before a marker. -/
def jpegFill (data : ByteArray) : Nat → UInt8 → ByteRead UInt8
  | 0, _ => throw "EOF"
  | fuel + 1, m => if m == 0xff then do jpegFill data fuel (← takeByte data) else pure m

/-- Reads segments until the size is known (see the module comment). -/
def jpegSegments (data : ByteArray) : Nat → JpegState → ByteRead JpegState
  | 0, _ => throw unexpectedEof
  | fuel + 1, st => do
    let two ← takeBytes data 2
    let m ← jpegMarker data (data.size + 2) (two.getD 0 0) (two.getD 1 0)
    if m == 0 then return ← jpegSegments data fuel st
    let m ← jpegFill data (data.size + 2) m
    if m == 0xd9 then
      throw (jpegFormat "missing SOS marker")
    if 0xd0 ≤ m && m ≤ 0xd7 then return ← jpegSegments data fuel st
    let len ← takeBytes data 2
    let n : Int := (bigEndian len : Int) - 2
    if n < 0 then throw (jpegFormat "short segment length")
    let n := n.toNat
    if m == 0xc0 || m == 0xc1 || m == 0xc2 then
      let st := { st with progressive := m == 0xc2 }
      if st.jfif then return ← jpegFrame data n st
      let st ← jpegFrame data n st
      jpegSegments data fuel st
    else if m == 0xda then pure st
    else if m == 0xc4 || m == 0xdb || m == 0xdd then
      skipBytes data n
      jpegSegments data fuel st
    else if m == 0xe0 then
      let head ← jpegApp data n 5
      let st := match head with
        | some h => { st with jfif := h == [0x4A, 0x46, 0x49, 0x46, 0x00] }
        | none => st
      jpegSegments data fuel st
    else if m == 0xee then
      let _ ← jpegApp data n 12
      jpegSegments data fuel st
    else if (0xe0 ≤ m && m ≤ 0xef) || m == 0xfe then
      skipBytes data n
      jpegSegments data fuel st
    else if m < 0xc0 then throw (jpegFormat "unknown marker")
    else throw (jpegUnsupported "unknown marker")

/-- The size of a JPEG image. -/
def jpegSize (data : ByteArray) : Except String Size :=
  (do
    let soi ← takeBytes data 2
    if soi != [0xff, 0xd8] then throw (jpegFormat "missing SOI marker")
    let st ← jpegSegments data (data.size + 2) default
    if st.components == 0 then throw (jpegFormat "missing SOF marker")
    pure st.size : ByteRead Size).run' 0

/-! ## TIFF -/

/-- A malformed TIFF file. -/
def tiffFormat (msg : String) : String := "tiff: invalid format: " ++ msg

/-- A TIFF file using a feature this reader lacks. -/
def tiffUnsupported (msg : String) : String := "tiff: unsupported feature: " ++ msg

/-- Reads `n` bytes at offset `off`, given that the first `seen` bytes have been read before:
a read that needs bytes the data lacks fails with `EOF` when none are left after `seen`, and
with `unexpected EOF` when some are. Gives the bytes and how far the data has now been read. -/
def tiffReadAt (data : ByteArray) (seen off n : Nat) : Except String (List UInt8 × Nat) :=
  let stop := off + n
  if stop ≤ seen then .ok ((data.extract off stop).toList, seen)
  else if stop ≤ data.size then .ok ((data.extract off stop).toList, stop)
  else if seen ≥ data.size then .error "EOF"
  else .error unexpectedEof

/-- The byte widths of the TIFF field types 1 to 5 (byte, ASCII, short, long, rational). -/
def tiffTypeWidth (t : Nat) : Nat :=
  match t with
  | 1 => 1 | 2 => 1 | 3 => 2 | 4 => 4 | 5 => 8 | _ => 0

/-- The tags whose values the reader keeps. -/
def tiffKeptTags : List Nat :=
  [258, 338, 262, 259, 317, 273, 279, 278, 322, 323, 324, 325, 257, 256, 266, 292, 293]

/-- Reads the unsigned values of a directory entry. Gives the values and how far the data has
been read. -/
def tiffValues (data : ByteArray) (little : Bool) (seen : Nat) (entry : List UInt8) :
    Except String (List Nat × Nat) := do
  let num := fun (bs : List UInt8) => if little then littleEndian bs else bigEndian bs
  let dtype := num ((entry.drop 2).take 2)
  if dtype == 0 || dtype ≥ 6 then throw (tiffUnsupported "IFD entry datatype")
  let width := tiffTypeWidth dtype
  let count := num ((entry.drop 4).take 4)
  if count > (Nat.pow 2 31 - 1) / width then throw (tiffFormat "IFD data too large")
  let len := width * count
  let (raw, seen) ← if len > 4 then tiffReadAt data seen (num ((entry.drop 8).take 4)) len
    else pure ((entry.drop 8).take len, seen)
  let chunks := (List.range count).map fun i => (raw.drop (i * width)).take width
  match dtype with
  | 1 | 3 | 4 => pure (chunks.map num, seen)
  | _ => throw (tiffUnsupported "data type")

/-- What the directory of a TIFF file declares: the kept values of each tag. -/
abbrev TiffFeatures := List (Nat × List Nat)

/-- The first value of a tag, `0` when it has none. -/
def firstValue (fs : TiffFeatures) (tag : Nat) : Nat :=
  ((fs.find? (·.1 == tag)).map (·.2) |>.getD []).headD 0

/-- Reads the entries of the directory in order; the tags must increase. -/
def tiffEntries (data : ByteArray) (little : Bool) :
    List (List UInt8) → Int → Nat → TiffFeatures → Except String TiffFeatures
  | [], _, _, fs => pure fs
  | entry :: rest, prev, seen, fs => do
    let num := fun (bs : List UInt8) => if little then littleEndian bs else bigEndian bs
    let tag := num (entry.take 2)
    let (fs, seen) ←
      if tiffKeptTags.contains tag then do
        let (vals, seen) ← tiffValues data little seen entry
        pure (((fs.filter (·.1 != tag)) ++ [(tag, vals)]), seen)
      else if tag == 320 then do
        let (vals, seen) ← tiffValues data little seen entry
        let colors := vals.length / 3
        if vals.length % 3 != 0 || colors == 0 || colors > 256 then throw (tiffFormat "bad ColorMap length")
        pure (fs, seen)
      else if tag == 339 then do
        let (vals, seen) ← tiffValues data little seen entry
        if vals.any (· != 1) then throw (tiffUnsupported "sample format")
        pure (fs, seen)
      else pure (fs, seen)
    if (tag : Int) ≤ prev then throw (tiffFormat "tags are not sorted in ascending order")
    tiffEntries data little rest tag seen fs

/-- The entries of a directory: twelve bytes each. -/
def splitEntries (bs : List UInt8) : Nat → List (List UInt8)
  | 0 => []
  | k + 1 => bs.take 12 :: splitEntries (bs.drop 12) k

/-- The size of a TIFF image. -/
def tiffSize (data : ByteArray) : Except String Size := do
  let (head, seen) ← match tiffReadAt data 0 0 8 with
    | .ok r => pure r
    | .error _ => throw unexpectedEof
  let little ← match head.take 4 with
    | [0x49, 0x49, 0x2A, 0x00] => pure true
    | [0x4D, 0x4D, 0x00, 0x2A] => pure false
    | _ => throw (tiffFormat "malformed header")
  let num := fun (bs : List UInt8) => if little then littleEndian bs else bigEndian bs
  let dirAt := num (head.drop 4)
  let (countBytes, seen) ← tiffReadAt data seen dirAt 2
  let count := num countBytes
  let (entries, seen) ← tiffReadAt data seen (dirAt + 2) (12 * count)
  let fs ← tiffEntries data little (splitEntries entries count) (-1) seen []
  let size : Size := ⟨firstValue fs 256, firstValue fs 257⟩
  let bits := match fs.find? (·.1 == 258) with
    | some (_, vs) => vs
    | none => [1]
  let bpp := bits.headD 0
  if bpp == 0 then throw (tiffFormat "BitsPerSample must not be 0")
  if bpp != 1 && bpp != 8 && bpp != 16 then throw (tiffUnsupported ("BitsPerSample of " ++ toString bpp))
  match firstValue fs 262 with
  | 2 =>
    if bpp == 16 then
      if bits.any (· != 16) then throw (tiffFormat "wrong number of samples for 16bit RGB")
    else if bits.any (· != 8) then throw (tiffFormat "wrong number of samples for 8bit RGB")
    match bits.length with
    | 3 => pure size
    | 4 =>
      let extra := firstValue fs 338
      if extra == 1 || extra == 2 then pure size
      else throw (tiffFormat "wrong number of samples for RGB")
    | _ => throw (tiffFormat "wrong number of samples for RGB")
  | 3 | 0 | 1 => pure size
  | 5 =>
    if bpp == 16 then throw (tiffUnsupported ("CMYK BitsPerSample of " ++ toString bpp))
    pure size
  | _ => throw (tiffUnsupported "color model")

/-! ## Recognising the format -/

/-- The formats recognised by their first bytes. -/
inductive Format where
  | png | jpeg | tiff
deriving DecidableEq, Inhabited

/-- The name of a format. -/
def Format.name : Format → String
  | .png => "png"
  | .jpeg => "jpeg"
  | .tiff => "tiff"

/-- The format the first bytes of the data show. -/
def sniff (data : ByteArray) : Option Format :=
  let start := fun (magic : List UInt8) => magic.length ≤ data.size && (data.extract 0 magic.length).toList == magic
  if start [0x49, 0x49, 0x2A, 0x00] || start [0x4D, 0x4D, 0x00, 0x2A] then some .tiff
  else if start [0xff, 0xd8] then some .jpeg
  else if start pngSignature then some .png
  else none

/-- The format and size of an image. -/
def decodeConfig (data : ByteArray) : Except String (Format × Size) :=
  match sniff data with
  | none => .error "image: unknown format"
  | some f =>
    let size := match f with
      | .png => pngSize data
      | .jpeg => jpegSize data
      | .tiff => tiffSize data
    size.map fun s => (f, s)

end CreditExtraction.Image
