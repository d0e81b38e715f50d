import SpectralLine.SpectrumTransport
import SpectralLine.Lib.Numbered
import SpectralLine.Lib.Run
import Mathlib.Tactic.FinCases

set_option autoImplicit false

namespace SpectralLine

open Packed Numbered

-- spectrum_header; doubles and the float are their bit patterns.
structure PackedSpectrumHeader where
  magic : BitVec 32 := 0x534C5231
  version : BitVec 16 := 3
  timestampNs : BitVec 64
  obsId : BitVec 32
  integrationId : BitVec 32
  subbandId : BitVec 16
  windowId : BitVec 16
  subbandStartFreq : BitVec 64
  subbandEndFreq : BitVec 64
  startFreqHz : BitVec 64
  channelBwHz : BitVec 64
  nChannels : BitVec 32
  stokes : BitVec 8
  pktId : BitVec 16
  totalPkt : BitVec 16
  exposure : BitVec 32
  noiseState : BitVec 8
  calMode : BitVec 8
  beamId : BitVec 8 := 0
  reserved2 : BitVec 8 := 0
  ra : BitVec 64
  dec : BitVec 64
  flags : BitVec 32
  integrationStartNs : BitVec 64 := 0
deriving DecidableEq, Repr

namespace PackedSpectrumHeader

def fields (header : PackedSpectrumHeader) : List Field :=
  [⟨4, header.magic⟩, ⟨2, header.version⟩, ⟨8, header.timestampNs⟩, ⟨4, header.obsId⟩, ⟨4, header.integrationId⟩,
    ⟨2, header.subbandId⟩, ⟨2, header.windowId⟩, ⟨8, header.subbandStartFreq⟩, ⟨8, header.subbandEndFreq⟩,
    ⟨8, header.startFreqHz⟩, ⟨8, header.channelBwHz⟩, ⟨4, header.nChannels⟩, ⟨1, header.stokes⟩, ⟨2, header.pktId⟩,
    ⟨2, header.totalPkt⟩, ⟨4, header.exposure⟩, ⟨1, header.noiseState⟩, ⟨1, header.calMode⟩, ⟨1, header.beamId⟩,
    ⟨1, header.reserved2⟩, ⟨8, header.ra⟩, ⟨8, header.dec⟩, ⟨4, header.flags⟩, ⟨8, header.integrationStartNs⟩]

def bytes (header : PackedSpectrumHeader) : List Byte := pack header.fields

-- static_assert(sizeof(spectrum_header) == 103)
@[simp] theorem bytes_length (header : PackedSpectrumHeader) : header.bytes.length = 103 := by
  rw [bytes, pack_length, fields]
  simp only [List.map_cons, List.map_nil, List.sum_cons, List.sum_nil, Nat.reduceAdd]

end PackedSpectrumHeader

abbrev ThreadId := Nat

-- socket_ and monitor_socket_ are opened together, for owner_thread_.
structure SpectrumSender where
  socket : Option ThreadId := none
  serverId : BitVec 16 := 0
  nextSequence : BitVec 64 := 0
  endpoint : String := ""
  lastFailure : String := ""
deriving DecidableEq, Repr

inductive SocketSetup where
  | monitorLinger | monitorConnect | immediate | linger | sendHwm | sendTimeout | reconnect | reconnectMax | heartbeat
  | heartbeatTimeout
deriving DecidableEq, Repr

-- The calls of the if condition, in its order.
def socketSetup : List SocketSetup :=
  [.monitorLinger, .monitorConnect, .immediate, .linger, .sendHwm, .sendTimeout, .reconnect, .reconnectMax, .heartbeat,
    .heartbeatTimeout]

-- What libzmq answers while a socket is opened; an error is the text of
-- zmq_strerror.
structure Opening where
  context : Bool
  socket : Except String Unit
  monitor : Except String Unit
  pair : Except String Unit
  setup : SocketSetup → Except String Unit
  connect : Except String Unit

-- What libzmq answers one send_spectrum call: zmq_poll with its count and
-- POLLOUT, zmq_msg_init_size, and zmq_msg_send with the bytes it took.
structure SendCalls where
  thread : ThreadId
  opening : Opening
  poll : Except String (Nat × Bool)
  allocate : Except String Unit
  transmit : Except String Nat

structure SendOutcome where
  sender : SpectrumSender
  header : PackedSpectrumHeader
  accepted : Option (List Byte)
  complete : Bool

namespace SpectrumSender

def init (sender : SpectrumSender) (ip : String) (port : Nat) (serverId : BitVec 16) : SpectrumSender :=
  { sender with serverId, endpoint := "tcp://" ++ ip ++ ":" ++ toString port }

def openSocket (endpoint : String) (opening : Opening) : Except String Unit := do
  if endpoint.isEmpty then throw "ZeroMQ sender endpoint is not configured"
  if !opening.context then throw "failed to create ZeroMQ context"
  opening.socket
  opening.monitor
  opening.pair
  socketSetup.forM opening.setup
  opening.connect

def ensureSocket (sender : SpectrumSender) (thread : ThreadId) (opening : Opening) : SpectrumSender × Bool :=
  match sender.socket with
  | some owner =>
      if owner ≠ thread then ({ sender with lastFailure := "ZeroMQ socket accessed from a non-owner thread" }, false)
      else (sender, true)
  | none =>
      match openSocket sender.endpoint opening with
      | .error failure => ({ sender with lastFailure := failure }, false)
      | .ok _ => ({ sender with socket := some thread, lastFailure := "" }, true)

def prepare (sender : SpectrumSender) (thread : ThreadId) (opening : Opening) : SpectrumSender × Bool :=
  sender.ensureSocket thread opening

def waitUntilWritable (sender : SpectrumSender) (thread : ThreadId) (opening : Opening) (poll : Except String (Nat × Bool)) :
    SpectrumSender × Bool :=
  match sender.ensureSocket thread opening with
  | (sender, false) => (sender, false)
  | (sender, true) =>
      match poll with
      | .error failure => ({ sender with lastFailure := failure }, false)
      | .ok (count, writable) =>
          if count = 0 ∨ writable = false then
            ({ sender with lastFailure := "no writable peer (connection pending/down or HWM full)" }, false)
          else ({ sender with lastFailure := "" }, true)

end SpectrumSender

def uint32Max : Nat := 2 ^ 32 - 1
def intMax : Nat := 2 ^ 31 - 1

-- The message as zmq_msg_data holds it before zmq_msg_send.
def spectrumMessage (serverId : BitVec 16) (sequence : BitVec 64) (header : PackedSpectrumHeader) (payload : List Byte) :
    List Byte :=
  let body := header.bytes ++ payload
  let transport : SpectrumTransportHeader :=
    { serverId, sequence, messageBytes := BitVec.ofNat 32 body.length, crc32c := spectrumCrc32c body }
  transport.bytes ++ body

namespace SpectrumSender

-- send_spectrum from the size of the message on.
def transmit (sender : SpectrumSender) (calls : SendCalls) (sequence : BitVec 64) (header : PackedSpectrumHeader)
    (payload : List Byte) : SendOutcome :=
  let messageBytes := 24 + (103 + payload.length)
  if intMax < messageBytes then
    ⟨{ sender with lastFailure := "message exceeds ZeroMQ send size limit" }, header, none, false⟩
  else
    match calls.allocate with
    | .error failure => ⟨{ sender with lastFailure := failure }, header, none, false⟩
    | .ok _ =>
        let message := spectrumMessage sender.serverId sequence header payload
        match calls.transmit with
        | .error failure => ⟨{ sender with lastFailure := failure }, header, none, false⟩
        | .ok sent =>
            if sent = messageBytes then ⟨{ sender with lastFailure := "" }, header, some message, true⟩
            else ⟨{ sender with lastFailure := "partial ZeroMQ message send" }, header, some message, false⟩

def sendSpectrum (sender : SpectrumSender) (calls : SendCalls) (header : PackedSpectrumHeader) (payload : Option (List Byte)) :
    SendOutcome :=
  match sender.ensureSocket calls.thread calls.opening with
  | (sender, false) => ⟨sender, header, none, false⟩
  | (sender, true) =>
      match payload with
      | none => ⟨{ sender with lastFailure := "result payload is null" }, header, none, false⟩
      | some payload =>
          if uint32Max - 103 < payload.length then
            ⟨{ sender with lastFailure := "payload exceeds transport size limit" }, header, none, false⟩
          else
            let header := { header with pktId := 0, totalPkt := 1 }
            -- Advanced before the peer is polled, whatever follows.
            let sequence := sender.nextSequence
            let sender := { sender with nextSequence := sequence + 1 }
            match sender.waitUntilWritable calls.thread calls.opening calls.poll with
            | (sender, false) => ⟨sender, header, none, false⟩
            | (sender, true) => sender.transmit calls sequence header payload

end SpectrumSender

-- Transport header offset 8, as the receiver reads it.
def messageSequence (message : List Byte) : Nat := fieldAt message 8 8

theorem message_sequence (serverId : BitVec 16) (sequence : BitVec 64) (header : PackedSpectrumHeader) (payload : List Byte) :
    messageSequence (spectrumMessage serverId sequence header payload) = sequence.toNat := by
  have placed := field_at_start (pack [⟨4, spectrumTransportMagic⟩, ⟨2, spectrumTransportVersion⟩, ⟨2, serverId⟩])
    (pack [⟨4, BitVec.ofNat 32 (header.bytes ++ payload).length⟩, ⟨4, spectrumCrc32c (header.bytes ++ payload)⟩] ++
      (header.bytes ++ payload)) ⟨8, sequence⟩
  rw [pack_length] at placed
  simpa [spectrumMessage, SpectrumTransportHeader.bytes, SpectrumTransportHeader.fields, pack, messageSequence] using placed

def SocketReady (sender : SpectrumSender) (thread : ThreadId) (opening : Opening) : Prop :=
  sender.socket = some thread ∨ sender.socket = none ∧ SpectrumSender.openSocket sender.endpoint opening = .ok ()

namespace SpectrumSender

-- No call but send_spectrum itself touches these.
def Kept (before after : SpectrumSender) : Prop := after.nextSequence = before.nextSequence ∧ after.serverId = before.serverId

theorem ensure_socket_kept (sender : SpectrumSender) (thread : ThreadId) (opening : Opening) :
    Kept sender (sender.ensureSocket thread opening).1 := by
  rw [ensureSocket]
  cases sender.socket with
  | some owner =>
      by_cases other : owner ≠ thread
      · simp only [if_pos other]
        exact ⟨rfl, rfl⟩
      · simp only [if_neg other]
        exact ⟨rfl, rfl⟩
  | none => cases openSocket sender.endpoint opening <;> exact ⟨rfl, rfl⟩

theorem ensure_socket_ready (sender : SpectrumSender) (thread : ThreadId) (opening : Opening)
    (ready : SocketReady sender thread opening) :
    (sender.ensureSocket thread opening).2 = true ∧ (sender.ensureSocket thread opening).1.socket = some thread := by
  rcases ready with owned | ⟨closed, opened⟩
  · simp only [ensureSocket, owned, ne_eq, not_true_eq_false, if_false, and_self]
  · simp only [ensureSocket, closed, opened, and_self]

theorem wait_kept (sender : SpectrumSender) (thread : ThreadId) (opening : Opening) (poll : Except String (Nat × Bool)) :
    Kept sender (sender.waitUntilWritable thread opening poll).1 := by
  have kept := ensure_socket_kept sender thread opening
  rw [waitUntilWritable]
  cases opened : sender.ensureSocket thread opening with
  | mk next ready =>
      rw [opened] at kept
      cases ready with
      | false => exact kept
      | true =>
          cases poll with
          | error failure => exact kept
          | ok answer =>
              by_cases busy : answer.1 = 0 ∨ answer.2 = false
              · simp only [if_pos busy]
                exact kept
              · simp only [if_neg busy]
                exact kept

theorem transmit_effect (sender : SpectrumSender) (calls : SendCalls) (sequence : BitVec 64) (header : PackedSpectrumHeader)
    (payload : List Byte) : Kept sender (sender.transmit calls sequence header payload).sender ∧
      ∀ message, (sender.transmit calls sequence header payload).accepted = some message →
        message = spectrumMessage sender.serverId sequence header payload := by
  rw [transmit]
  by_cases large : intMax < 24 + (103 + payload.length)
  · simp [large, Kept]
  · cases calls.allocate with
    | error failure => simp [large, Kept]
    | ok =>
        cases calls.transmit with
        | error failure => simp [large, Kept]
        | ok sent => by_cases whole : sent = 24 + (103 + payload.length) <;> simp [large, whole, eq_comm, Kept]

-- What libzmq is given, whatever the state of the connection.
theorem send_spectrum_effect (sender : SpectrumSender) (calls : SendCalls) (header : PackedSpectrumHeader)
    (payload : Option (List Byte)) : (sender.sendSpectrum calls header payload).sender.serverId = sender.serverId ∧
      ∀ message, (sender.sendSpectrum calls header payload).accepted = some message →
        ∃ bytes, payload = some bytes ∧ bytes.length ≤ uint32Max - 103 ∧
          message = spectrumMessage sender.serverId sender.nextSequence { header with pktId := 0, totalPkt := 1 } bytes := by
  have kept := ensure_socket_kept sender calls.thread calls.opening
  rw [sendSpectrum]
  cases opened : sender.ensureSocket calls.thread calls.opening with
  | mk next isReady =>
      rw [opened] at kept
      obtain ⟨number, server⟩ := kept
      cases isReady with
      | false => exact ⟨server, fun message accepted => nomatch accepted⟩
      | true =>
          cases payload with
          | none => exact ⟨server, fun message accepted => nomatch accepted⟩
          | some bytes =>
              by_cases large : uint32Max - 103 < bytes.length
              · simp only [if_pos large]
                exact ⟨server, fun message accepted => nomatch accepted⟩
              · simp only [if_neg large]
                have waited := wait_kept { next with nextSequence := next.nextSequence + 1 } calls.thread calls.opening calls.poll
                cases writable : waitUntilWritable { next with nextSequence := next.nextSequence + 1 } calls.thread calls.opening calls.poll with
                | mk last isWritable =>
                    rw [writable] at waited
                    cases isWritable with
                    | false => exact ⟨waited.2.trans server, fun message accepted => nomatch accepted⟩
                    | true =>
                        obtain ⟨sent, built⟩ := transmit_effect last calls next.nextSequence { header with pktId := 0, totalPkt := 1 } bytes
                        refine ⟨sent.2.trans (waited.2.trans server), fun message accepted => ⟨bytes, rfl, Nat.le_of_not_lt large, ?_⟩⟩
                        rw [built message accepted, waited.2.trans server, show next.nextSequence = sender.nextSequence from number]

-- A call that finds its socket takes the next number, whatever becomes of the
-- result.
theorem send_spectrum_advances (sender : SpectrumSender) (calls : SendCalls) (header : PackedSpectrumHeader) (payload : List Byte)
    (small : payload.length ≤ uint32Max - 103) (ready : SocketReady sender calls.thread calls.opening) :
    (sender.sendSpectrum calls header (some payload)).sender.nextSequence = sender.nextSequence + 1 := by
  have found := (ensure_socket_ready sender calls.thread calls.opening ready).1
  have kept := (ensure_socket_kept sender calls.thread calls.opening).1
  rw [sendSpectrum]
  cases opened : sender.ensureSocket calls.thread calls.opening with
  | mk next isReady =>
      rw [opened] at found kept
      obtain rfl : isReady = true := found
      simp only [if_neg (Nat.not_lt.mpr small)]
      have waited := (wait_kept { next with nextSequence := next.nextSequence + 1 } calls.thread calls.opening calls.poll).1
      cases writable : waitUntilWritable { next with nextSequence := next.nextSequence + 1 } calls.thread calls.opening calls.poll with
      | mk last isWritable =>
          rw [writable] at waited
          have advanced : last.nextSequence = sender.nextSequence + 1 := by
            rw [← show next.nextSequence = sender.nextSequence from kept]
            exact waited
          cases isWritable with
          | false => exact advanced
          | true => exact (transmit_effect last calls next.nextSequence _ payload).1.1.trans advanced

end SpectrumSender

inductive SenderCall where
  | prepare (thread : ThreadId) (opening : Opening)
  | waitUntilWritable (thread : ThreadId) (opening : Opening) (poll : Except String (Nat × Bool))
  | sendSpectrum (calls : SendCalls) (header : PackedSpectrumHeader) (payload : Option (List Byte))

-- With the message libzmq accepted, if any, for every result offered so far.
structure SenderRun where
  sender : SpectrumSender
  offered : List (Option (List Byte)) := []

namespace SenderRun

def step (run : SenderRun) : SenderCall → SenderRun
  | .prepare thread opening => { run with sender := (run.sender.prepare thread opening).1 }
  | .waitUntilWritable thread opening poll => { run with sender := (run.sender.waitUntilWritable thread opening poll).1 }
  | .sendSpectrum calls header payload =>
      let outcome := run.sender.sendSpectrum calls header payload
      { sender := outcome.sender, offered := run.offered ++ [outcome.accepted] }

def start (ip : String) (port : Nat) (serverId : BitVec 16) : SenderRun := { sender := SpectrumSender.init {} ip port serverId }

def after (ip : String) (port : Nat) (serverId : BitVec 16) (calls : List SenderCall) : SenderRun :=
  calls.foldl step (start ip port serverId)

end SenderRun

namespace SenderCall

def isSend : SenderCall → Bool
  | sendSpectrum _ _ _ => true
  | _ => false

-- A result with a payload within the size limits.
def Offers : SenderCall → Prop
  | sendSpectrum _ _ payload => ∃ bytes, payload = some bytes ∧ 24 + (103 + bytes.length) ≤ intMax
  | _ => True

def Ready (sender : SpectrumSender) : SenderCall → Prop
  | sendSpectrum calls _ _ => SocketReady sender calls.thread calls.opening
  | _ => True

end SenderCall

-- Every offer of the run is made with the socket open, or opens it.
def ReadyThroughout : SenderRun → List SenderCall → Prop
  | _, [] => True
  | run, call :: rest => call.Ready run.sender ∧ ReadyThroughout (run.step call) rest

structure SenderCounts (run : SenderRun) : Prop where
  next : run.sender.nextSequence = BitVec.ofNat 64 run.offered.length
  numbers : run.offered.length ≤ 2 ^ 64 → Numbers messageSequence run.offered

theorem sender_counts_keep (run : SenderRun) (sender : SpectrumSender) (counts : SenderCounts run)
    (kept : sender.nextSequence = run.sender.nextSequence) : SenderCounts { run with sender } :=
  ⟨kept.trans counts.next, counts.numbers⟩

theorem sender_counts_step (run : SenderRun) (call : SenderCall) (counts : SenderCounts run) (offers : call.Offers)
    (ready : call.Ready run.sender) : SenderCounts (run.step call) := by
  cases call with
  | prepare thread opening =>
      exact sender_counts_keep run _ counts (SpectrumSender.ensure_socket_kept run.sender thread opening).1
  | waitUntilWritable thread opening poll =>
      exact sender_counts_keep run _ counts (SpectrumSender.wait_kept run.sender thread opening poll).1
  | sendSpectrum calls header payload =>
      obtain ⟨bytes, rfl, small⟩ := offers
      have fits : bytes.length ≤ uint32Max - 103 := by
        rw [intMax] at small
        rw [uint32Max]
        omega
      have advanced := SpectrumSender.send_spectrum_advances run.sender calls header bytes fits ready
      constructor
      · rw [SenderRun.step, List.length_append, List.length_singleton, BitVec.ofNat_add, ← counts.next]
        exact advanced
      · intro few
        rw [SenderRun.step, List.length_append, List.length_singleton] at few
        refine numbers_append _ _ _ (counts.numbers (by omega)) ?_
        intro message accepted
        obtain ⟨_, _, _, rfl⟩ := (SpectrumSender.send_spectrum_effect run.sender calls header (some bytes)).2 message accepted
        rw [message_sequence, counts.next, BitVec.toNat_ofNat, Nat.mod_eq_of_lt (by omega)]

theorem sender_counts_run (run : SenderRun) (calls : List SenderCall) (counts : SenderCounts run)
    (offers : ∀ call ∈ calls, call.Offers) (ready : ReadyThroughout run calls) : SenderCounts (calls.foldl SenderRun.step run) := by
  induction calls generalizing run with
  | nil => exact counts
  | cons call rest ih =>
      obtain ⟨now, later⟩ := ready
      have next := sender_counts_step run call counts (offers call List.mem_cons_self) now
      exact ih (run.step call) next (fun other member => offers other (List.mem_cons_of_mem _ member)) later

theorem offered_length (ip : String) (port : Nat) (serverId : BitVec 16) (calls : List SenderCall) :
    (SenderRun.after ip port serverId calls).offered.length = calls.countP SenderCall.isSend := by
  induction calls using List.reverseRecOn with
  | nil => rfl
  | append_singleton past call ih =>
      rw [SenderRun.after, List.foldl_append, List.countP_append, ← ih]
      cases call with
      | prepare => rfl
      | waitUntilWritable => rfl
      | sendSpectrum => exact List.length_append

-- What the numbers of the accepted messages tell the receiver.
structure SequenceReveals (offered : List (Option (List Byte))) : Prop where
  position : ∀ (n : Nat) (message : List Byte), offered[n]? = some (some message) → messageSequence message = n
  increasing : ∀ (n m : Nat) (first second : List Byte), n < m → offered[n]? = some (some first) →
    offered[m]? = some (some second) → messageSequence first < messageSequence second
  gap : ∀ (n m : Nat) (first second : List Byte), offered[n]? = some (some first) → offered[m]? = some (some second) →
    droppedBetween offered n m + acceptedBetween offered n m = messageSequence second - (messageSequence first + 1)

-- As long as every offer finds or opens its socket, the gaps in the sequence
-- are the results that were dropped.
theorem sequence_reveals_drops (ip : String) (port : Nat) (serverId : BitVec 16) (calls : List SenderCall)
    (offers : ∀ call ∈ calls, call.Offers) (few : calls.countP SenderCall.isSend ≤ 2 ^ 64)
    (ready : ReadyThroughout (SenderRun.start ip port serverId) calls) :
    SequenceReveals (SenderRun.after ip port serverId calls).offered := by
  have initial : SenderCounts (SenderRun.start ip port serverId) := ⟨rfl, fun _ => numbers_nil messageSequence⟩
  have counts := sender_counts_run _ calls initial offers ready
  have numbers := counts.numbers (by rwa [← SenderRun.after, offered_length])
  exact ⟨numbers, numbers_increasing messageSequence _ numbers, numbers_gap messageSequence _ numbers⟩

def idleHeader : PackedSpectrumHeader where
  timestampNs := 0
  obsId := 0
  integrationId := 0
  subbandId := 0
  windowId := 0
  subbandStartFreq := 0
  subbandEndFreq := 0
  startFreqHz := 0
  channelBwHz := 0
  nChannels := 1
  stokes := 4
  pktId := 0
  totalPkt := 1
  exposure := 0
  noiseState := 0
  calMode := 0
  ra := 0
  dec := 0
  flags := 0

def openingOk : Opening := ⟨true, .ok (), .ok (), .ok (), fun _ => .ok (), .ok ()⟩

def openingFails : Opening := { openingOk with socket := .error "Too many open files" }

def offer (opening : Opening) (poll : Except String (Nat × Bool)) : SenderCall :=
  .sendSpectrum ⟨1, opening, poll, .ok (), .ok 131⟩ idleHeader (some [0, 0, 0, 0])

theorem sequence_reveals_drops_unwritable :
    SequenceReveals (SenderRun.after "10.0.0.1" 5001 2 [offer openingOk (.ok (0, false)), offer openingOk (.ok (1, true))]).offered :=
  sequence_reveals_drops "10.0.0.1" 5001 2 _
    (by
      intro call member
      fin_cases member <;> exact ⟨_, rfl, by decide⟩)
    (by decide) ⟨Or.inr ⟨rfl, rfl⟩, Or.inl rfl, trivial⟩

-- The first result is dropped because its socket cannot be created; the second
-- is accepted with sequence 0.
theorem sequence_reveals_drops_fails : ¬ ∀ (ip : String) (port : Nat) (serverId : BitVec 16) (calls : List SenderCall),
    (∀ call ∈ calls, call.Offers) → calls.countP SenderCall.isSend ≤ 2 ^ 64 →
      SequenceReveals (SenderRun.after ip port serverId calls).offered := by
  intro always
  have revealed := always "10.0.0.1" 5001 2 [offer openingFails (.ok (1, true)), offer openingOk (.ok (1, true))]
    (by
      intro call member
      fin_cases member <;> exact ⟨_, rfl, by decide⟩)
    (by decide)
  have accepted : (SenderRun.after "10.0.0.1" 5001 2
      [offer openingFails (.ok (1, true)), offer openingOk (.ok (1, true))]).offered[1]? =
        some (some (spectrumMessage 2 0 idleHeader [0, 0, 0, 0])) := by
    rfl
  have number := revealed.position 1 _ accepted
  rw [message_sequence] at number
  cases number

end SpectralLine
