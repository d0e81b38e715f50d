import SpectralLine.Sdfits
import SpectralLine.ConfigLayout

set_option autoImplicit false

namespace SpectralLine

open StatusCalls Checked

-- The fields of a std::tm that are printed.
structure UtcTime where
  year : Nat
  month : Nat
  day : Nat
  hour : Nat
  minute : Nat
  second : Nat
deriving DecidableEq, Repr

-- gmtime_r: the proleptic Gregorian calendar, in years that start in March.
def gmtime (seconds : Nat) : UtcTime :=
  let days := seconds / 86400 + 719468
  let ofEra := days % 146097
  let century := min (ofEra / 36524) 3
  let ofCentury := ofEra - century * 36524
  let ofLeap := ofCentury % 1461
  let yearOfLeap := min (ofLeap / 365) 3
  let ofYear := ofLeap - yearOfLeap * 365
  let monthIndex := (5 * ofYear + 2) / 153
  let month := if monthIndex < 10 then monthIndex + 3 else monthIndex - 9
  let year := days / 146097 * 400 + century * 100 + ofCentury / 1461 * 4 + yearOfLeap
  { year := if month ≤ 2 then year + 1 else year
    month
    day := ofYear - (153 * monthIndex + 2) / 5 + 1
    hour := seconds % 86400 / 3600
    minute := seconds % 3600 / 60
    second := seconds % 60 }

example : gmtime 1709164800 = ⟨2024, 2, 29, 0, 0, 0⟩ := by decide

-- format_fits_utc into a buffer of 32 bytes.
def formatFitsUtc (timestampNs : BitVec 64) : Option (List Byte) :=
  let time := gmtime (timestampNs.toNat / 1000000000)
  let text := padded 4 time.year ++ [0x2d] ++ padded 2 time.month ++ [0x2d] ++ padded 2 time.day ++ [0x54] ++ padded 2 time.hour ++
    [0x3a] ++ padded 2 time.minute ++ [0x3a] ++ padded 2 time.second ++ [0x2e] ++ padded 9 (timestampNs.toNat % 1000000000)
  if text.length < 32 then some text else none

-- What sdfits_metadata may change in a new writer.
structure SkyMetadata (F : Type) where
  telescope : List Byte
  instrument : List Byte
  siteLon : F
  siteLat : F
  siteHeight : F
  ra : F
  dec : F

-- snprintf("%s") of a std::string.
def cString (text : String) : List Byte := (stringBytes text).takeWhile (· ≠ 0)

structure BandKey (F : Type) where
  subbandId : BitVec 16
  windowId : BitVec 16
  beamId : BitVec 8
  startFreqHz : F
  channelBwHz : F
  nChannels : BitVec 32

structure SdfitsRow where
  header : PackedSpectrumHeader
  data : List (BitVec 32)

-- The members of LocalSdfitsWriter that its worker thread alone uses, with the
-- names on the disk.
structure WriterThread (F : Type) where
  writers : List (BandKey F × Sdfits F)
  disk : List (List Byte)

structure JobOutcome (F : Type) where
  thread : WriterThread F
  calls : Nat

section

variable {F : Type} (env : WriterEnv F)

def metadataText (sky : Option YamlNode) (key : String) (field : List Byte) : Except String (List Byte) := do
  let node ← env.config.yaml.get sky key
  if node.isNone then .ok field
  else do
    let value ← env.config.yaml.asString node
    refuse ((stringBytes value).isEmpty ∨ 16 ≤ (stringBytes value).length)
      ("sdfits_metadata." ++ key ++ " must contain 1-15 characters")
    return cString value

-- `if (meta[key] && bad) throw`
def refuseGiven (sky : Option YamlNode) (key : String) (bad : Bool) (message : String) : Except String Unit := do
  let node ← env.config.yaml.get sky key
  refuse (node.isSome && bad) message

-- !std::isfinite(x) || std::abs(x) > limit
def beyond (limit : ℚ) (x : F) : Bool :=
  !env.config.double.isFinite x || env.config.double.lt (env.config.double.lit limit) (env.config.double.abs x)

def raOutside (ra : F) : Bool :=
  !env.config.double.isFinite ra || env.config.double.lt ra (env.config.double.lit 0) ||
    env.config.double.le (env.config.double.lit 360) ra

def readMetadata (sky : Option YamlNode) (known : SkyMetadata F) : Except String (SkyMetadata F) :=
  if sky.isNone || YamlNode.isNull sky then .ok known
  else do
    let yaml := env.config.yaml
    refuse (!YamlNode.isMap sky) "sdfits_metadata must be a mapping"
    let telescope ← metadataText env sky "telescope" known.telescope
    let instrument ← metadataText env sky "instrument" known.instrument
    let siteLon ← yaml.optional sky "site_lon_deg" yaml.asDouble known.siteLon
    let siteLat ← yaml.optional sky "site_lat_deg" yaml.asDouble known.siteLat
    let siteHeight ← yaml.optional sky "site_height_m" yaml.asDouble known.siteHeight
    refuseGiven env sky "site_lon_deg" (beyond env 180 siteLon) "site_lon_deg must be in [-180,180]"
    refuseGiven env sky "site_lat_deg" (beyond env 90 siteLat) "site_lat_deg must be in [-90,90]"
    refuseGiven env sky "site_height_m" (!env.config.double.isFinite siteHeight) "site_height_m must be finite"
    let ra ← yaml.optional sky "ra_deg" yaml.asDouble known.ra
    let dec ← yaml.optional sky "dec_deg" yaml.asDouble known.dec
    refuseGiven env sky "ra_deg" (raOutside env ra) "sdfits_metadata.ra_deg must be in [0,360)"
    refuseGiven env sky "dec_deg" (beyond env 90 dec) "sdfits_metadata.dec_deg must be in [-90,90]"
    return { telescope, instrument, siteLon, siteLat, siteHeight, ra, dec }

def knownMetadata (writer : Sdfits F) : SkyMetadata F where
  telescope := stringBytes "NSRT"
  instrument := stringBytes "7mm"
  siteLon := writer.hdr.siteLon
  siteLat := writer.hdr.siteLat
  siteHeight := writer.hdr.siteHeight
  ra := writer.dataColumns.ra
  dec := writer.dataColumns.dec

def withMetadata (writer : Sdfits F) (m : SkyMetadata F) (object : String) (calMode sourceOn : Bool) : Sdfits F :=
  let d := env.config.double
  { writer with
    hdr := { writer.hdr with
      telescope := m.telescope
      instrument := m.instrument
      calMode := stringBytes (if calMode then "SYNC" else "OFF")
      bandwidth := d.mul (d.abs writer.hdr.chanBw) (d.lit writer.hdr.nchan)
      sourceOn
      siteLon := m.siteLon
      siteLat := m.siteLat
      siteHeight := m.siteHeight }
    dataColumns := { writer.dataColumns with
      object := if object.isEmpty then stringBytes "UNKNOWN" else cString object
      ra := m.ra
      dec := m.dec } }

def configureSdfitsMetadata (writer : Sdfits F) (sky : Option YamlNode) (object : String) (calMode sourceOn : Bool) :
    Except String (Sdfits F) := do
  refuse (16 ≤ (stringBytes object).length) "SDFITS OBJECT exceeds 15 characters"
  let m ← readMetadata env sky (knownMetadata writer)
  return withMetadata env writer m object calMode sourceOn

def bandKey (header : PackedSpectrumHeader) : BandKey F where
  subbandId := header.subbandId
  windowId := header.windowId
  beamId := header.beamId
  startFreqHz := env.ofBits header.startFreqHz
  channelBwHz := env.ofBits header.channelBwHz
  nChannels := header.nChannels

-- == of doubles
def sameDouble (x y : F) : Bool := env.config.double.le x y && env.config.double.le y x

def BandKey.same (a b : BandKey F) : Bool :=
  a.subbandId = b.subbandId && a.windowId = b.windowId && a.beamId = b.beamId && sameDouble env a.startFreqHz b.startFreqHz &&
    sameDouble env a.channelBwHz b.channelBwHz && a.nChannels = b.nChannels

def findWriter (key : BandKey F) : List (BandKey F × Sdfits F) → Option (Sdfits F)
  | [] => none
  | (band, writer) :: rest => if BandKey.same env band key then some writer else findWriter key rest

-- The writer that a pointer into the map designates takes this value.
def putWriter (key : BandKey F) (value : Sdfits F) : List (BandKey F × Sdfits F) → List (BandKey F × Sdfits F)
  | [] => []
  | (band, writer) :: rest =>
      if BandKey.same env band key then (band, value) :: rest else (band, writer) :: putWriter key value rest

-- The text of basefilename before it is cut to its buffer.
def bandFilename (cfg : GlobalConfig F) (header : PackedSpectrumHeader) : List Byte :=
  let d := env.config.double
  let start := env.ofBits header.startFreqHz
  let stop := d.add start (d.mul (env.ofBits header.channelBwHz) (d.lit header.nChannels.toNat))
  let mega := fun frequency => env.fixed2 (d.div frequency (d.lit 1000000))
  cfg.localSdfitsFolder ++ stringBytes "/sb" ++ padded 2 header.subbandId.toNat ++ stringBytes "_w" ++
    padded 1 header.windowId.toNat ++ stringBytes "_" ++ mega start ++ stringBytes "-" ++ mega stop ++ stringBytes "MHz_" ++
    (if header.beamId = 0 then stringBytes "A" else stringBytes "B") ++ stringBytes "_" ++
    stringBytes (if cfg.sourceOn then "ON" else "OFF") ++ stringBytes "_" ++ padded 1 header.nChannels.toNat

-- The new writer of a band, up to its metadata.
def bandWriter (cfg : GlobalConfig F) (header : PackedSpectrumHeader) (dateObs : List Byte) : Sdfits F :=
  let d := env.config.double
  let start := env.ofBits header.startFreqHz
  let width := env.ofBits header.channelBwHz
  { Sdfits.initial env with
    newFile := true
    basefilename := bandFilename env cfg header
    hdr := { HdrInfo.initial env with
      nchan := header.nChannels.toInt
      dateObs
      sttmjd := env.unixNsToMjd header.integrationStartNs
      hwexposr := env.ofFloat header.exposure
      chanBw := width
      obsfreq := d.add start (d.div (d.mul width (d.lit header.nChannels.toNat)) (d.lit 2))
      nsubband := 1
      npol := 4 } }

variable (faults : Nat → Option Fault)

-- With the number of CFITSIO routines that ran.
structure BandWriter (F : Type) where
  thread : WriterThread F
  calls : Nat
  writer : Option (Sdfits F)

-- get_or_create_writer once the date is known.
def createWriter (cfg : GlobalConfig F) (thread : WriterThread F) (header : PackedSpectrumHeader) (dateObs : List Byte) :
    Except String (BandWriter F) := do
  let writer ← configureSdfitsMetadata env (bandWriter env cfg header dateObs) cfg.sdfitsMetadata cfg.object (header.calMode ≠ 0)
    cfg.sourceOn
  let created := sdfitsCreate env faults ⟨writer, thread.disk, 0⟩
  if created.2 ≠ 0 then return ⟨{ thread with disk := created.1.disk }, created.1.calls, none⟩
  else
    let writers := thread.writers ++ [(bandKey env header, created.1.writer)]
    return ⟨⟨writers, created.1.disk⟩, created.1.calls, some created.1.writer⟩

def getOrCreateWriter (cfg : GlobalConfig F) (thread : WriterThread F) (header : PackedSpectrumHeader) :
    Except String (BandWriter F) :=
  match findWriter env (bandKey env header) thread.writers with
  | some writer => .ok ⟨thread, 0, some writer⟩
  | none =>
      if 200 ≤ (bandFilename env cfg header).length then .ok ⟨thread, 0, none⟩
      else
        match formatFitsUtc header.integrationStartNs with
        | none => .ok ⟨thread, 0, none⟩
        | some dateObs => createWriter env faults cfg thread header dateObs

def jobColumns (writer : Sdfits F) (job : SdfitsRow) : DataColumns F :=
  { writer.dataColumns with
    data := job.data
    calOn := job.header.noiseState.toNat
    integNum := job.header.integrationId.toInt
    centreFreq := writer.hdr.obsfreq :: writer.dataColumns.centreFreq.tail
    time := env.unixNsToMjd job.header.integrationStartNs
    exposure := job.header.exposure }

def writeRow (band : BandWriter F) (writer : Sdfits F) (job : SdfitsRow) : JobOutcome F :=
  let columns := jobColumns env writer job
  let io := (sdfitsWriteSubint env faults ⟨{ writer with dataColumns := columns }, band.thread.disk, band.calls⟩).1
  let written := { io.writer with dataColumns := { io.writer.dataColumns with data := [] } }
  ⟨⟨putWriter env (bandKey env job.header) written band.thread.writers, io.disk⟩, io.calls⟩

def writeJob (cfg : GlobalConfig F) (thread : WriterThread F) (job : SdfitsRow) : Except String (JobOutcome F) := do
  let band ← getOrCreateWriter env faults cfg thread job.header
  match band.writer with
  | none => return ⟨band.thread, band.calls⟩
  | some writer => return writeRow env faults band writer job

-- A job with the faults that the routines of CFITSIO suffer during it.
structure FaultyJob where
  row : SdfitsRow
  faults : Nat → Option Fault

-- The loop of run() over the jobs it takes from the queue.
def runJobs (cfg : GlobalConfig F) : WriterThread F → List FaultyJob → Except String (WriterThread F)
  | thread, [] => .ok thread
  | thread, job :: rest => do
      let outcome ← writeJob env job.faults cfg thread job.row
      runJobs cfg outcome.thread rest

end

theorem padded_length (width n limit : Nat) (positive : 0 < limit) (wide : width ≤ limit) (small : n < 10 ^ limit) :
    (padded width n).length ≤ limit := by
  have digits := (Nat.length_toDigits_le_iff (b := 10) (by decide) positive).mpr small
  rw [padded, List.length_append, List.length_replicate, List.length_map]
  omega

-- The widths of format_fits_utc hold every field up to the end of uint64_t.
structure PrintedFields (time : UtcTime) : Prop where
  year : time.year < 10 ^ 4
  month : time.month < 10 ^ 2
  day : time.day < 10 ^ 2
  hour : time.hour < 10 ^ 2
  minute : time.minute < 10 ^ 2
  second : time.second < 10 ^ 2

theorem gmtime_printed (seconds : Nat) (range : seconds < 2 ^ 35) : PrintedFields (gmtime seconds) := by
  have era : (seconds / 86400 + 719468) / 146097 < 8 := by omega
  have inEra : (seconds / 86400 + 719468) % 146097 < 146097 := Nat.mod_lt _ (by decide)
  simp only [gmtime]
  generalize (seconds / 86400 + 719468) / 146097 = eras at era
  generalize (seconds / 86400 + 719468) % 146097 = ofEra at inEra
  have ofCentury : ofEra - min (ofEra / 36524) 3 * 36524 < 36525 := by omega
  generalize ofEra - min (ofEra / 36524) 3 * 36524 = century at ofCentury
  have ofLeap : century % 1461 < 1461 := Nat.mod_lt _ (by decide)
  generalize century % 1461 = leap at ofLeap
  have ofYear : leap - min (leap / 365) 3 * 365 < 366 := by omega
  generalize leap - min (leap / 365) 3 * 365 = day at ofYear
  have index : (5 * day + 2) / 153 < 12 := by omega
  constructor <;> dsimp only
  · split <;> split <;> omega
  · split <;> omega
  · omega
  · omega
  · omega
  · omega

theorem format_fits_utc_total (timestampNs : BitVec 64) : (formatFitsUtc timestampNs).isSome = true := by
  have bound := timestampNs.isLt
  obtain ⟨year, month, day, hour, minute, second⟩ := gmtime_printed (timestampNs.toNat / 1000000000) (by omega)
  have nanos : timestampNs.toNat % 1000000000 < 10 ^ 9 := Nat.mod_lt _ (by decide)
  have short := padded_length 4 _ 4 (by decide) (by decide) year
  have shortMonth := padded_length 2 _ 2 (by decide) (by decide) month
  have shortDay := padded_length 2 _ 2 (by decide) (by decide) day
  have shortHour := padded_length 2 _ 2 (by decide) (by decide) hour
  have shortMinute := padded_length 2 _ 2 (by decide) (by decide) minute
  have shortSecond := padded_length 2 _ 2 (by decide) (by decide) second
  have shortNanos := padded_length 9 _ 9 (by decide) (by decide) nanos
  rw [formatFitsUtc, if_pos]
  · rfl
  · simp only [List.length_append, List.length_cons, List.length_nil]
    omega

end SpectralLine
