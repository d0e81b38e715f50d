import SpectralLine.GlobalConfig
import SpectralLine.Lib.StatusCalls

set_option autoImplicit false

namespace SpectralLine

open StatusCalls

-- The digits of a number, with leading zeroes up to the width.
def padded (width n : Nat) : List Byte :=
  let digits := (Nat.toDigits 10 n).map fun c => BitVec.ofNat 8 c.toNat
  List.replicate (width - digits.length) 0x30 ++ digits

def decimalInt (n : Int) : List Byte := if n < 0 then 0x2d :: padded 1 n.natAbs else padded 1 n.natAbs

-- What CFITSIO takes from the program: strings, numbers, and the floats and
-- doubles of a vector; F stands for the doubles.
inductive FitsValue (F : Type) where
  | text (bytes : List Byte)
  | integer (value : Int)
  | single (value : BitVec 32)
  | real (value : F)
  | singles (values : List (BitVec 32))
  | reals (values : List F)
  | undefined

inductive Hdu where
  | primary
  | singleDish
deriving DecidableEq, Repr

-- The columns of the template, in its order.
def templateColumns : List String :=
  ["TIME", "TIMECNTR", "INTEGNUM", "EXPOSURE", "OBJECT", "AZIMUTH", "ELEVATIO", "BMAJ", "BMIN", "BPA", "ACCUMID", "STTSPEC",
    "STPSPEC", "SUBFREQ", "CRPIX3", "CRVAL3", "CDELT3", "CRVAL4", "CRVAL5", "DATA", "NOISE"]

-- A column number, from 1; 0 where there is none.
def columnNumber (name : String) : Nat :=
  if name ∈ templateColumns then templateColumns.idxOf name + 1 else 0

-- The cells of the table by row and column, both from 1.
structure FitsFile (F : Type) where
  hdu : Hdu := .primary
  keys : Hdu → String → Option (FitsValue F) := fun _ _ => none
  vectorLen : Nat → Int := fun _ => 1
  cells : Nat → Nat → Option (FitsValue F) := fun _ _ => none
  rows : Nat := 0

-- The open file of a writer, and the names that are taken on the disk.
structure FitsWorld (F : Type) where
  file : Option (FitsFile F)
  disk : List (List Byte)

inductive FitsCall (F : Type) where
  | createTemplate (filename : List Byte)
  | movabsHdu
  | getSystemTime
  | movnamHdu
  | updateKey (key : String) (value : FitsValue F)
  | getColnum (name : String)
  | modifyVectorLen (column : Nat) (length : Int)
  | writeCol (column row : Nat) (value : FitsValue F)
  | flushFile
  | closeFile

namespace FitsFile

variable {F : Type}

def updateKey (file : FitsFile F) (key : String) (value : FitsValue F) : FitsFile F :=
  { file with keys := fun hdu name => if hdu = file.hdu ∧ name = key then some value else file.keys hdu name }

def writeCol (file : FitsFile F) (column row : Nat) (value : FitsValue F) : FitsFile F :=
  { file with
    cells := fun r c => if r = row ∧ c = column then some value else file.cells r c
    rows := max file.rows row }

end FitsFile

namespace FitsCall

variable {F : Type}

def onFile (world : FitsWorld F) (change : FitsFile F → FitsFile F) : FitsWorld F := { world with file := world.file.map change }

def apply : FitsCall F → FitsWorld F → FitsWorld F
  | createTemplate filename, world => { file := some {}, disk := filename :: world.disk }
  | movabsHdu, world => onFile world fun file => { file with hdu := .primary }
  | getSystemTime, world => world
  | movnamHdu, world => onFile world fun file => { file with hdu := .singleDish }
  | updateKey key value, world => onFile world fun file => file.updateKey key value
  | getColnum _, world => world
  | modifyVectorLen column length, world =>
      onFile world fun file => { file with vectorLen := fun c => if c = column then length else file.vectorLen c }
  | writeCol column row value, world => onFile world fun file => file.writeCol column row value
  | flushFile, world => world
  | closeFile, world => { world with file := none }

end FitsCall

-- HdrInfo without the members that nothing reads.
structure HdrInfo (F : Type) where
  telescope : List Byte
  bandwidth : F
  dateObs : List Byte
  tsys : F
  projid : List Byte
  frontend : List Byte
  obsfreq : F
  scan : F
  instrument : List Byte
  calMode : List Byte
  calPhs : F
  npol : Int
  nchan : Int
  chanBw : F
  nsubband : Int
  efsampfr : F
  fpgaclk : F
  hwexposr : F
  filtnep : F
  sttmjd : F
  siteLon : F
  siteLat : F
  siteHeight : F
  sourceOn : Bool

-- sdfits_data_columns: the members that a row is written from.
structure DataColumns (F : Type) where
  time : F
  timeCounter : Nat
  integNum : Int
  exposure : BitVec 32
  object : List Byte
  azimuth : BitVec 32
  elevation : BitVec 32
  bmaj : BitVec 32
  bmin : BitVec 32
  bpa : BitVec 32
  accumid : Int
  sttspec : Int
  stpspec : Int
  centreFreqIdx : BitVec 32
  centreFreq : List F
  ra : F
  dec : F
  data : List (BitVec 32)
  calOn : Int

structure Sdfits (F : Type) where
  basefilename : List Byte
  filename : List Byte
  n : Nat
  t : F
  filenum : Nat
  newFile : Bool
  rownum : Nat
  totRows : Nat
  rowsPerFile : Nat
  status : Nat
  fptr : Option (FitsFile F)
  multifile : Bool
  hdr : HdrInfo F
  dataColumns : DataColumns F

-- Double arithmetic as the writers use it: NaN, the doubles and floats of a
-- header by their bits, %.2f, and the date of fits_get_system_time.
structure WriterEnv (F : Type) where
  config : ConfigEnv F
  nan : F
  ofBits : BitVec 64 → F
  ofFloat : BitVec 32 → F
  fixed2 : F → List Byte
  unixNsToMjd : BitVec 64 → F
  systemTime : List Byte

section

variable {F : Type} (env : WriterEnv F)

def HdrInfo.initial : HdrInfo F :=
  let zero := env.config.double.lit 0
  { telescope := []
    bandwidth := zero
    dateObs := []
    tsys := env.nan
    projid := []
    frontend := []
    obsfreq := zero
    scan := zero
    instrument := []
    calMode := []
    calPhs := zero
    npol := 4
    nchan := 0
    chanBw := zero
    nsubband := 0
    efsampfr := zero
    fpgaclk := zero
    hwexposr := zero
    filtnep := zero
    sttmjd := zero
    siteLon := env.nan
    siteLat := env.nan
    siteHeight := env.nan
    sourceOn := true }

def DataColumns.initial : DataColumns F :=
  let zero := env.config.double.lit 0
  { time := zero
    timeCounter := 0
    integNum := 0
    exposure := 0
    object := []
    azimuth := 0
    elevation := 0
    bmaj := 0
    bmin := 0
    bpa := 0
    accumid := 0
    sttspec := 0
    stpspec := 0
    centreFreqIdx := 0
    centreFreq := List.replicate 8 zero
    ra := env.nan
    dec := env.nan
    data := []
    calOn := 0 }

def Sdfits.initial : Sdfits F where
  basefilename := []
  filename := []
  n := 0
  t := env.config.double.lit 0
  filenum := 0
  newFile := false
  rownum := 0
  totRows := 0
  rowsPerFile := 0
  status := 0
  fptr := none
  multifile := false
  hdr := HdrInfo.initial env
  dataColumns := DataColumns.initial env

-- A member function at work: its object, the disk, and how many routines of
-- CFITSIO have run for the present job.
structure SdfitsIo (F : Type) where
  writer : Sdfits F
  disk : List (List Byte)
  calls : Nat

variable (faults : Nat → Option Fault)

namespace SdfitsIo

def session (io : SdfitsIo F) : Session (FitsWorld F) := ⟨⟨io.writer.fptr, io.disk⟩, io.writer.status, io.calls⟩

def callAll (io : SdfitsIo F) (calls : List (FitsCall F)) : SdfitsIo F :=
  let done := performAll FitsCall.apply faults io.session calls
  { writer := { io.writer with fptr := done.state.file, status := done.status }
    disk := done.state.disk
    calls := done.calls }

end SdfitsIo

def finiteKey (key : String) (value : F) : List (FitsCall F) :=
  if env.config.double.isFinite value then [.updateKey key (.real value)] else []

-- sdfits_create between the template and the column numbers.
def headerCalls (hdr : HdrInfo F) : List (FitsCall F) :=
  [.movabsHdu,
    .getSystemTime,
    .updateKey "DATE" (.text env.systemTime),
    .movnamHdu,
    .updateKey "TELESCOP" (.text hdr.telescope),
    .updateKey "BANDWID" (.real hdr.bandwidth),
    .updateKey "DATALAY" (.text (stringBytes "PRODFAST")),
    .updateKey "TUNIT20" (.text (stringBytes "count")),
    .updateKey "CALSTAT" (.text (stringBytes "UNCALIBRATED")),
    .updateKey "SRCSTATE" (.text (stringBytes (if hdr.sourceOn then "ON" else "OFF"))),
    .updateKey "TCAL" .undefined,
    .updateKey "FREQTYPE" (.text (stringBytes "RF"))] ++
  finiteKey env "SITELONG" hdr.siteLon ++ finiteKey env "SITELAT" hdr.siteLat ++ finiteKey env "SITEELEV" hdr.siteHeight ++
  [.updateKey "DATE-OBS" (.text hdr.dateObs),
    .updateKey "MJD-OBS" (.real hdr.sttmjd),
    .updateKey "TSYS" (if env.config.double.isFinite hdr.tsys then .real hdr.tsys else .undefined),
    .updateKey "PROJID" (.text hdr.projid),
    .updateKey "FRONTEND" (.text hdr.frontend),
    .updateKey "OBSFREQ" (.real hdr.obsfreq),
    .updateKey "SCAN" (.real hdr.scan),
    .updateKey "INSTRUME" (.text hdr.instrument),
    .updateKey "CAL_MODE" (.text hdr.calMode)] ++
  (if hdr.calMode = stringBytes "OFF" then []
    else [.updateKey "CAL_FREQ" .undefined, .updateKey "CAL_DCYC" .undefined, .updateKey "CAL_PHS" (.real hdr.calPhs)]) ++
  [.updateKey "NPOL" (.integer hdr.npol),
    .updateKey "NCHAN" (.integer hdr.nchan),
    .updateKey "CHAN_BW" (.real hdr.chanBw),
    .updateKey "NSUBBAND" (.integer hdr.nsubband),
    .updateKey "EFSAMPFR" (.real hdr.efsampfr),
    .updateKey "FPGACLK" (.real hdr.fpgaclk),
    .updateKey "HWEXPOSR" (.real hdr.hwexposr),
    .updateKey "FILTNEP" (.real hdr.filtnep),
    .updateKey "STTMJD" (.real hdr.sttmjd)]

def tdimValue (hdr : HdrInfo F) : List Byte :=
  stringBytes "(" ++ decimalInt hdr.npol ++ stringBytes "," ++ decimalInt hdr.nsubband ++ stringBytes "," ++ decimalInt hdr.nchan ++
    stringBytes ",1,1)"

-- The lengths of the two vector columns, and what sdfits_create does last.
def layoutCalls (hdr : HdrInfo F) (dataCol subfreqCol : Nat) : List (FitsCall F) :=
  [.modifyVectorLen dataCol (hdr.nsubband * hdr.nchan * hdr.npol),
    .modifyVectorLen subfreqCol hdr.nsubband,
    .updateKey ("TDIM" ++ toString dataCol) (.text (tdimValue hdr)),
    .flushFile]

def sdfitsExtension : List Byte := stringBytes ".sdfits"

def filenameStem (basefilename : List Byte) : List Byte :=
  if sdfitsExtension.isSuffixOf basefilename then basefilename.take (basefilename.length - sdfitsExtension.length) else basefilename

-- The object once sdfits_create has named the file.
def startFile (writer : Sdfits F) : Sdfits F :=
  { writer with newFile := false, rownum := 1, filenum := 1, filename := filenameStem writer.basefilename ++ sdfitsExtension }

def sdfitsCreate (io : SdfitsIo F) : SdfitsIo F × Nat :=
  let writer := startFile io.writer
  if 210 ≤ writer.filename.length then ({ io with writer := { writer with filename := writer.filename.take 209 } }, 1)
  else if writer.filename ∈ io.disk then ({ io with writer }, 1)
  else
    let io := SdfitsIo.callAll faults { io with writer } [.createTemplate writer.filename]
    if io.writer.status ≠ 0 then (io, io.writer.status)
    else
      let io := io.callAll faults (headerCalls env io.writer.hdr ++ [.getColnum "DATA"])
      if io.writer.status ≠ 0 then (io, io.writer.status)
      else
        let io := io.callAll faults [.getColnum "SUBFREQ"]
        if io.writer.status ≠ 0 then (io, io.writer.status)
        else
          let io := io.callAll faults (layoutCalls io.writer.hdr (columnNumber "DATA") (columnNumber "SUBFREQ"))
          (io, io.writer.status)

def rowCells (hdr : HdrInfo F) (columns : DataColumns F) : List (FitsValue F) :=
  let d := env.config.double
  [.real columns.time,
    .integer columns.timeCounter,
    .integer columns.integNum,
    .single columns.exposure,
    .text columns.object,
    .single columns.azimuth,
    .single columns.elevation,
    .single columns.bmaj,
    .single columns.bmin,
    .single columns.bpa,
    .integer columns.accumid,
    .integer columns.sttspec,
    .integer columns.stpspec,
    .reals (columns.centreFreq.take hdr.nsubband.toNat),
    .single columns.centreFreqIdx,
    .real (d.sub hdr.obsfreq (d.mul (d.mul (d.lit (1 / 2)) (d.lit hdr.nchan)) hdr.chanBw)),
    .real hdr.chanBw,
    .real columns.ra,
    .real columns.dec,
    .singles (columns.data.take (hdr.nchan * hdr.nsubband * hdr.npol).toNat),
    .integer columns.calOn]

def writeCells (row : Nat) : (column : Nat) → List (FitsValue F) → List (FitsCall F)
  | _, [] => []
  | column, value :: rest => .writeCol column row value :: writeCells row (column + 1) rest

def rowCalls (hdr : HdrInfo F) (columns : DataColumns F) (row : Nat) : List (FitsCall F) :=
  writeCells row 1 (rowCells env hdr columns) ++ (if row % 8 = 0 then [.flushFile] else [])

-- float 1.0f
def oneSingle : BitVec 32 := 0x3f800000

def sdfitsWriteSubint (io : SdfitsIo F) : SdfitsIo F × Nat :=
  let io : SdfitsIo F :=
    if io.writer.newFile || (io.writer.multifile && io.writer.rowsPerFile < io.writer.rownum) then
      (sdfitsCreate env faults (if io.writer.newFile then io else io.callAll faults [.closeFile])).1
    else io
  let columns := { io.writer.dataColumns with centreFreqIdx := oneSingle }
  let io : SdfitsIo F := { io with writer := { io.writer with dataColumns := columns } }
  let io := io.callAll faults (rowCalls env io.writer.hdr columns io.writer.rownum)
  if io.writer.status = 0 then
    ({ io with writer := { io.writer with
        rownum := io.writer.rownum + 1
        totRows := io.writer.totRows + 1
        n := io.writer.n + 1
        t := env.config.double.add io.writer.t (env.ofFloat columns.exposure) } }, io.writer.status)
  else (io, io.writer.status)

end

end SpectralLine
