import SpectralLine.ConfigLayout

set_option autoImplicit false

namespace SpectralLine

open Packed

-- The sizes of Python's struct codes after a "<".
def codeWidth : Char → Nat
  | 'B' => 1
  | 'H' => 2
  | 'I' => 4
  | 'f' => 4
  | 'Q' => 8
  | 'd' => 8
  | _ => 0

def transportFormat : String := "IHHQII"
def spectrumFormat : String := "IHQIIHHddddIBHHfBBBBddIQ"

-- struct.unpack_from; a double or a float is its bit pattern.
def structUnpackFrom (format : String) (message : List Byte) (offset : Nat) : Option (List Nat) :=
  unpackFrom (format.toList.map codeWidth) message offset

-- The table of the transport header, by its offsets and lengths.
def documentedTransport (message : List Byte) : SpectrumTransportHeader where
  magic := BitVec.ofNat 32 (fieldAt message 0 4)
  version := BitVec.ofNat 16 (fieldAt message 4 2)
  serverId := BitVec.ofNat 16 (fieldAt message 6 2)
  sequence := BitVec.ofNat 64 (fieldAt message 8 8)
  messageBytes := BitVec.ofNat 32 (fieldAt message 16 4)
  crc32c := BitVec.ofNat 32 (fieldAt message 20 4)

-- The table of spectrum_header, from the start of the body.
def documentedHeader (body : List Byte) : PackedSpectrumHeader where
  magic := BitVec.ofNat 32 (fieldAt body 0 4)
  version := BitVec.ofNat 16 (fieldAt body 4 2)
  timestampNs := BitVec.ofNat 64 (fieldAt body 6 8)
  obsId := BitVec.ofNat 32 (fieldAt body 14 4)
  integrationId := BitVec.ofNat 32 (fieldAt body 18 4)
  subbandId := BitVec.ofNat 16 (fieldAt body 22 2)
  windowId := BitVec.ofNat 16 (fieldAt body 24 2)
  subbandStartFreq := BitVec.ofNat 64 (fieldAt body 26 8)
  subbandEndFreq := BitVec.ofNat 64 (fieldAt body 34 8)
  startFreqHz := BitVec.ofNat 64 (fieldAt body 42 8)
  channelBwHz := BitVec.ofNat 64 (fieldAt body 50 8)
  nChannels := BitVec.ofNat 32 (fieldAt body 58 4)
  stokes := BitVec.ofNat 8 (fieldAt body 62 1)
  pktId := BitVec.ofNat 16 (fieldAt body 63 2)
  totalPkt := BitVec.ofNat 16 (fieldAt body 65 2)
  exposure := BitVec.ofNat 32 (fieldAt body 67 4)
  noiseState := BitVec.ofNat 8 (fieldAt body 71 1)
  calMode := BitVec.ofNat 8 (fieldAt body 72 1)
  beamId := BitVec.ofNat 8 (fieldAt body 73 1)
  reserved2 := BitVec.ofNat 8 (fieldAt body 74 1)
  ra := BitVec.ofNat 64 (fieldAt body 75 8)
  dec := BitVec.ofNat 64 (fieldAt body 83 8)
  flags := BitVec.ofNat 32 (fieldAt body 91 4)
  integrationStartNs := BitVec.ofNat 64 (fieldAt body 95 8)

-- The checks the document asks of a receiver, up to those of its streams.
structure ReceiverAccepts (mode : ObservationMode) (message : List Byte) : Prop where
  minimum : 24 + 103 ≤ message.length
  total : message.length = 24 + (documentedTransport message).messageBytes.toNat
  transportMagic : (documentedTransport message).magic = 0x534C5A31
  transportVersion : (documentedTransport message).version = 1
  server : (documentedTransport message).serverId ≤ 7
  crc : (documentedTransport message).crc32c = documentedCrc32c (message.drop 24)
  magic : (documentedHeader (message.drop 24)).magic = 0x534C5231
  version : (documentedHeader (message.drop 24)).version = 3
  pktId : (documentedHeader (message.drop 24)).pktId = 0
  totalPkt : (documentedHeader (message.drop 24)).totalPkt = 1
  subband : (documentedHeader (message.drop 24)).subbandId ≤ 31
  beam : (documentedHeader (message.drop 24)).beamId ≤ 1
  channels : 0 < (documentedHeader (message.drop 24)).nChannels
  placement : (documentedHeader (message.drop 24)).subbandId / 4 = (documentedTransport message).serverId
  spectral : mode = .spectral → (message.drop 127).length = (documentedHeader (message.drop 24)).nChannels.toNat * 16
  continuum : mode = .continuum → (message.drop 127).length = 4

-- The decoding of the document gives back what was sent.
structure Decodes (message : List Byte) (transport : SpectrumTransportHeader) (header : PackedSpectrumHeader) (payload : List Byte) :
    Prop where
  transportUnpacked : structUnpackFrom transportFormat message 0 = some (transport.fields.map fun field => field.value.toNat)
  headerUnpacked : structUnpackFrom spectrumFormat message 24 = some (header.fields.map fun field => field.value.toNat)
  transport : documentedTransport message = transport
  header : documentedHeader (message.drop 24) = header
  payload : message.drop 127 = payload

theorem transport_widths (header : SpectrumTransportHeader) : header.fields.map Field.width = transportFormat.toList.map codeWidth := by
  rfl

theorem spectrum_widths (header : PackedSpectrumHeader) : header.fields.map Field.width = spectrumFormat.toList.map codeWidth := by
  rfl

theorem documented_transport (header : SpectrumTransportHeader) (after : List Byte) :
    documentedTransport (header.bytes ++ after) = header := by
  have read := placed_values header.fields [] after
  rw [← SpectrumTransportHeader.bytes] at read
  generalize header.bytes ++ after = message at read ⊢
  simp only [SpectrumTransportHeader.fields, List.map_cons, List.map_nil, placed, List.length_nil, List.nil_append, Nat.reduceAdd,
    List.cons.injEq, and_true] at read
  simp only [documentedTransport, read, BitVec.ofNat_toNat, BitVec.setWidth_eq]

theorem documented_header (header : PackedSpectrumHeader) (after : List Byte) : documentedHeader (header.bytes ++ after) = header := by
  have read := placed_values header.fields [] after
  rw [← PackedSpectrumHeader.bytes] at read
  generalize header.bytes ++ after = body at read ⊢
  simp only [PackedSpectrumHeader.fields, List.map_cons, List.map_nil, placed, List.length_nil, List.nil_append, Nat.reduceAdd,
    List.cons.injEq, and_true] at read
  simp only [documentedHeader, read, BitVec.ofNat_toNat, BitVec.setWidth_eq]

def transportOf (serverId : BitVec 16) (sequence : BitVec 64) (header : PackedSpectrumHeader) (payload : List Byte) :
    SpectrumTransportHeader :=
  { serverId, sequence, messageBytes := BitVec.ofNat 32 (103 + payload.length), crc32c := documentedCrc32c (header.bytes ++ payload) }

theorem message_parts (serverId : BitVec 16) (sequence : BitVec 64) (header : PackedSpectrumHeader) (payload : List Byte) :
    spectrumMessage serverId sequence header payload =
      (transportOf serverId sequence header payload).bytes ++ (header.bytes ++ payload) := by
  rw [spectrumMessage, transportOf, spectrumCrc32c, crc_register, documentedCrc32c, List.length_append,
    PackedSpectrumHeader.bytes_length]

theorem transport_unpacked (header : SpectrumTransportHeader) (after : List Byte) :
    structUnpackFrom transportFormat (header.bytes ++ after) 0 = some (header.fields.map fun field => field.value.toNat) := by
  rw [structUnpackFrom, ← transport_widths header]
  exact unpack_pack header.fields [] after

theorem header_unpacked (before : List Byte) (header : PackedSpectrumHeader) (after : List Byte) :
    structUnpackFrom spectrumFormat (before ++ (header.bytes ++ after)) before.length =
      some (header.fields.map fun field => field.value.toNat) := by
  rw [structUnpackFrom, ← spectrum_widths header]
  exact unpack_pack header.fields before after

theorem message_body (serverId : BitVec 16) (sequence : BitVec 64) (header : PackedSpectrumHeader) (payload : List Byte) :
    (spectrumMessage serverId sequence header payload).drop 24 = header.bytes ++ payload := by
  rw [message_parts]
  exact List.drop_left' (SpectrumTransportHeader.bytes_length _)

theorem spectrum_message_length (serverId : BitVec 16) (sequence : BitVec 64) (header : PackedSpectrumHeader) (payload : List Byte) :
    (spectrumMessage serverId sequence header payload).length = 24 + (103 + payload.length) := by
  rw [message_parts, List.length_append, List.length_append, SpectrumTransportHeader.bytes_length, header.bytes_length]

theorem message_decodes (serverId : BitVec 16) (sequence : BitVec 64) (header : PackedSpectrumHeader) (payload : List Byte) :
    Decodes (spectrumMessage serverId sequence header payload) (transportOf serverId sequence header payload) header payload := by
  have body := message_body serverId sequence header payload
  rw [message_parts] at body ⊢
  generalize transportOf serverId sequence header payload = transport at body ⊢
  have front := transport.bytes_length
  have rest : (transport.bytes ++ (header.bytes ++ payload)).drop 127 = payload := by
    rw [← List.append_assoc]
    exact List.drop_left' (by rw [List.length_append, front, header.bytes_length])
  have unpacked := header_unpacked transport.bytes header payload
  rw [front] at unpacked
  refine ⟨transport_unpacked transport _, unpacked, documented_transport transport _, ?_, rest⟩
  rw [body]
  exact documented_header header payload

theorem sender_run_server (run : SenderRun) (calls : List SenderCall) :
    (calls.foldl SenderRun.step run).sender.serverId = run.sender.serverId := by
  induction calls generalizing run with
  | nil => rfl
  | cons call rest ih =>
      rw [List.foldl_cons, ih]
      cases call with
      | prepare thread opening => exact (SpectrumSender.ensure_socket_kept run.sender thread opening).2
      | waitUntilWritable thread opening poll => exact (SpectrumSender.wait_kept run.sender thread opening poll).2
      | sendSpectrum calls header payload => exact (SpectrumSender.send_spectrum_effect run.sender calls header payload).1

-- A value of a window's header: what the configuration gave it stands, the
-- rest is free.
structure HeaderOf {F : Type} (window : WindowConfig F) (header : PackedSpectrumHeader) : Prop where
  magic : header.magic = window.header.magic
  version : header.version = window.header.version
  subbandId : header.subbandId = window.header.subbandId
  beamId : header.beamId = window.header.beamId
  nChannels : header.nChannels = window.header.nChannels

-- The fields that send_data and send_spectrum write.
theorem header_of_sent {F : Type} (window : WindowConfig F) (header : PackedSpectrumHeader) (known : HeaderOf window header)
    (timestampNs integrationStartNs : BitVec 64) (noiseState : BitVec 8) (integrationId : BitVec 32) (pktId totalPkt : BitVec 16) :
    HeaderOf window { header with timestampNs, integrationStartNs, noiseState, integrationId, pktId, totalPkt } :=
  ⟨known.magic, known.version, known.subbandId, known.beamId, known.nChannels⟩

-- The payload of send_data: one float4 a channel, or the summed power.
def PayloadOf {F : Type} (cfg : GlobalConfig F) (payload : List Byte) : Prop :=
  match cfg.observationMode with
  | .baseband => False
  | .spectral => payload.length = cfg.winChannels.toNat * 16
  | .continuum => payload.length = 4

theorem global_subband : ∀ server index : Fin 8,
    BitVec.ofNat 16 (server.val * 4 + index.val / 2) ≤ 31 ∧
      BitVec.ofNat 16 (server.val * 4 + index.val / 2) / 4 = BitVec.ofNat 16 server.val ∧ BitVec.ofNat 16 server.val ≤ 7 := by
  decide +kernel

theorem beam_code (beam : BeamId) : beam.code ≤ 1 := by
  cases beam <;> decide

-- What the configuration puts into a window's header and sender.
theorem window_identity {F : Type} (env : ConfigEnv F) (config : YamlNode) (cfg : GlobalConfig F)
    (accepted : Accepted env config cfg) (sb : SubbandConfig F) (listed : sb ∈ cfg.subbands) (window : WindowConfig F)
    (member : window ∈ sb.windows) (header : PackedSpectrumHeader) (known : HeaderOf window header) :
    ∃ server index : Fin 8, window.sender.serverId = BitVec.ofNat 16 server.val ∧ header.magic = 0x534C5231 ∧ header.version = 3 ∧
      header.subbandId = BitVec.ofNat 16 (server.val * 4 + index.val / 2) ∧ header.beamId ≤ 1 ∧
      header.nChannels = BitVec.ofNat 32 cfg.winChannels.toNat := by
  obtain ⟨⟨low, high⟩, channels, entries, subband⟩ := accepted_layout env config cfg accepted
  obtain ⟨i, bound, rfl⟩ := List.mem_iff_getElem.mp listed
  obtain ⟨id, windows⟩ := subband i _ (List.getElem?_eq_getElem bound)
  obtain ⟨sender, winId, channelBwHz, built⟩ := windows window member
  obtain ⟨server, serverId⟩ := Int.eq_ofNat_of_zero_le low
  obtain ⟨count, winChannels⟩ := Int.eq_ofNat_of_zero_le channels.1.le
  rw [entries] at bound
  refine ⟨⟨server, by omega⟩, ⟨i, bound⟩, ?_, ?_, ?_, ?_, ?_, ?_⟩
  · rw [sender, serverId]
    rfl
  · rw [known.magic, built]
    rfl
  · rw [known.version, built]
    rfl
  · rw [known.subbandId, built, windowHeader, globalSubbandId, id, serverId, BitVec.toNat_ofNat,
      Nat.mod_eq_of_lt (bound.trans (by decide))]
    rfl
  · rw [known.beamId, built]
    exact beam_code _
  · rw [known.nChannels, built, windowHeader, winChannels]
    rfl

theorem wire_format {F : Type} (env : ConfigEnv F) (config : YamlNode) (cfg : GlobalConfig F) (accepted : Accepted env config cfg)
    (sb : SubbandConfig F) (listed : sb ∈ cfg.subbands) (window : WindowConfig F) (member : window ∈ sb.windows)
    (calls : List SenderCall) (header : PackedSpectrumHeader) (known : HeaderOf window header) (payload : List Byte)
    (produced : PayloadOf cfg payload) (fits : payload.length ≤ uint32Max - 103) :
    let sender := (calls.foldl SenderRun.step { sender := window.sender }).sender
    let sent := { header with pktId := 0, totalPkt := 1 }
    let message := spectrumMessage sender.serverId sender.nextSequence sent payload
    Decodes message (transportOf sender.serverId sender.nextSequence sent payload) sent payload ∧
      ReceiverAccepts cfg.observationMode message ∧
      ∀ now other, (sender.sendSpectrum now header (some payload)).accepted = some other → other = message := by
  intro sender sent message
  obtain ⟨server, index, serverId, magic, version, subbandId, beamId, nChannels⟩ :=
    window_identity env config cfg accepted sb listed window member header known
  obtain ⟨inRange, placement, few⟩ := global_subband server index
  have ran : sender.serverId = BitVec.ofNat 16 server.val := (sender_run_server _ calls).trans serverId
  have channels := (accepted_layout env config cfg accepted).channels
  have decoded : Decodes message (transportOf sender.serverId sender.nextSequence sent payload) sent payload :=
    message_decodes _ _ _ _
  have size : message.length = 24 + (103 + payload.length) := spectrum_message_length _ _ _ _
  have body : message.drop 24 = sent.bytes ++ payload := message_body _ _ _ _
  have count : sent.nChannels.toNat = cfg.winChannels.toNat := by
    rw [show sent.nChannels = _ from nChannels, BitVec.toNat_ofNat]
    omega
  refine ⟨decoded, ?_, ?_⟩
  · constructor
    case minimum => omega
    case total =>
      rw [decoded.transport, size, transportOf, BitVec.toNat_ofNat]
      rw [uint32Max] at fits
      omega
    case transportMagic => rw [decoded.transport, transportOf, spectrumTransportMagic]
    case transportVersion => rw [decoded.transport, transportOf, spectrumTransportVersion]
    case server =>
      rw [decoded.transport, transportOf, ran]
      exact few
    case crc => rw [decoded.transport, transportOf, body]
    case magic => rw [decoded.header, ← magic]
    case version => rw [decoded.header, ← version]
    case pktId => rw [decoded.header]
    case totalPkt => rw [decoded.header]
    case subband =>
      rw [decoded.header, show sent.subbandId = _ from subbandId]
      exact inRange
    case beam =>
      rw [decoded.header]
      exact beamId
    case channels =>
      rw [decoded.header, BitVec.lt_def, count]
      exact Int.pos_iff_toNat_pos.mp channels.1
    case placement =>
      rw [decoded.header, decoded.transport, transportOf, ran, show sent.subbandId = _ from subbandId]
      exact placement
    case spectral =>
      intro mode
      rw [PayloadOf, mode] at produced
      rw [decoded.header, decoded.payload, count]
      exact produced
    case continuum =>
      intro mode
      rw [PayloadOf, mode] at produced
      rw [decoded.payload]
      exact produced
  · intro now other taken
    obtain ⟨bytes, same, _, built⟩ := (SpectrumSender.send_spectrum_effect sender now header (some payload)).2 other taken
    cases same
    exact built

def plainAccepted : GlobalConfig ExactDouble := (acceptedConfig (plainConfig [])).get (by decide +kernel)

theorem plain_accepted : Accepted plainEnv (plainConfig []) plainAccepted := accepted_config _ _ (Option.some_get _).symm

def plainSubband : SubbandConfig ExactDouble := plainAccepted.subbands.head (by decide +kernel)

def plainWindow : WindowConfig ExactDouble := plainSubband.windows.head (by decide +kernel)

theorem wire_format_plain :
    let sent := { plainWindow.header with pktId := 0, totalPkt := 1 }
    let payload := List.replicate (65536 * 16) 0
    let message := spectrumMessage 3 0 sent payload
    Decodes message (transportOf 3 0 sent payload) sent payload ∧ ReceiverAccepts .spectral message := by
  have server : plainWindow.sender.serverId = 3 := by decide +kernel
  have number : plainWindow.sender.nextSequence = 0 := by decide +kernel
  have mode : plainAccepted.observationMode = .spectral := by decide +kernel
  have channels : plainAccepted.winChannels.toNat = 65536 := by decide +kernel
  have produced : PayloadOf plainAccepted (List.replicate (65536 * 16) 0) := by
    rw [PayloadOf, mode, channels]
    exact List.length_replicate
  obtain ⟨decoded, accepted, _⟩ := wire_format plainEnv (plainConfig []) plainAccepted plain_accepted plainSubband
    (List.head_mem _) plainWindow (List.head_mem _) [] plainWindow.header ⟨rfl, rfl, rfl, rfl, rfl⟩
    (List.replicate (65536 * 16) 0) produced (by rw [List.length_replicate]; decide)
  rw [List.foldl_nil, server, number] at decoded accepted
  rw [mode] at accepted
  exact ⟨decoded, accepted⟩

end SpectralLine
