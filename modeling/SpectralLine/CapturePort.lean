import SpectralLine.UdpChecker
import Mathlib.Data.List.Chain

set_option autoImplicit false

namespace SpectralLine

attribute [local instance] eight_words

-- A UDP packet as recvfrom returns it, with the headers in front of it that
-- the socket strips.
structure Datagram where
  address : String
  lower : List Byte
  payload : List Byte

-- struct.unpack_from("<8I", packet)
def unpackWords (packet : List Byte) (i : Fin 8) : Word :=
  readLE32 (packet.getD (4 * i.val) 0) (packet.getD (4 * i.val + 1) 0) (packet.getD (4 * i.val + 2) 0) (packet.getD (4 * i.val + 3) 0)

def headerInvalid (words : Fin 8 → Word) : Bool := words 0 >>> 31 &&& 1#32 != 0#32

def CheckerHeader.packetId (header : CheckerHeader) (framesPerSecond : Nat) : Nat :=
  header.secondsFromEpoch * framesPerSecond + header.frameNumber

-- The locals of capture_port. The informational lines are left out, but the
-- packet counts of complete seconds are kept.
structure PortCapture where
  received : Nat
  invalid : Nat
  badLength : Nat
  headerErrors : Nat
  missing : Nat
  duplicates : Nat
  reordered : Nat
  previousPacketId : Option Nat
  secondStart : Option (Nat × Nat)
  completeSeconds : List Nat
  reports : List String

namespace PortCapture

def parseVdifHeader (packet : List Byte) : Except String (CheckerHeader × Bool) :=
  if packet.length < VDIF.headerSize then
    .error ("packet has " ++ toString packet.length ++ " bytes; VDIF header needs " ++ toString VDIF.headerSize)
  else .ok (parseCheckerHeader (unpackWords packet), headerInvalid (unpackWords packet))

def initial : PortCapture := ⟨0, 0, 0, 0, 0, 0, 0, none, none, [], []⟩

def report (st : PortCapture) (message : String) : PortCapture := { st with reports := st.reports ++ [message] }

def errorPacket (st : PortCapture) (text : String) : PortCapture :=
  st.report ("ERROR packet " ++ toString st.received ++ ": " ++ text)

def checkLength (args : CheckerArgs) (d : Datagram) (st : PortCapture) : PortCapture :=
  if d.payload.length ≠ args.packetBytes then
    { st with badLength := st.badLength + 1 }.errorPacket ("received " ++ toString d.payload.length ++ " bytes from " ++
      d.address ++ ", expected " ++ toString args.packetBytes)
  else st

def checkFields (args : CheckerArgs) (header : CheckerHeader) (invalid : Bool) (st : PortCapture) : PortCapture :=
  let problems := checkExpected header args
  let st := problems.foldl errorPacket { st with headerErrors := st.headerErrors + problems.length }
  if invalid then { st with invalid := st.invalid + 1 } else st

def checkSequence (header : CheckerHeader) (packetId : Nat) (st : PortCapture) : PortCapture :=
  match st.previousPacketId with
  | none => { st with previousPacketId := some packetId }
  | some previous =>
      let difference : Int := packetId - previous
      let st :=
        if 1 < difference then
          { st with missing := st.missing + (difference - 1).toNat }.report ("LOSS before packet " ++ toString st.received ++
            ": missing " ++ toString (difference - 1) ++ " frame(s); received second=" ++ toString header.secondsFromEpoch ++
            " frame=" ++ toString header.frameNumber)
        else if difference = 0 then
          { st with duplicates := st.duplicates + 1 }.report ("DUPLICATE packet " ++ toString st.received ++ ": packet_id=" ++
            toString packetId)
        else if difference < 0 then
          { st with reordered := st.reordered + 1 }.report ("REORDERED packet " ++ toString st.received ++ ": packet_id=" ++
            toString packetId ++ ", previous=" ++ toString previous)
        else st
      { st with previousPacketId := some packetId }

def markSecond (args : CheckerArgs) (header : CheckerHeader) (st : PortCapture) : PortCapture :=
  let normalizedSecond := header.secondsFromEpoch + header.frameNumber / args.framesPerSecond
  let normalizedFrame := header.frameNumber % args.framesPerSecond
  if header.frameNumber ≤ args.framesPerSecond ∧ (normalizedFrame = 0 ∨ normalizedFrame = args.framesPerSecond - 1) then
    if normalizedFrame = 0 then { st with secondStart := some (st.received, normalizedSecond) }
    else
      match st.secondStart with
      | none => st
      | some (packet, second) =>
          if second = normalizedSecond then
            { st with completeSeconds := st.completeSeconds ++ [st.received - packet + 1], secondStart := none }
          else st
  else st

def capturePacket (args : CheckerArgs) (st : PortCapture) (d : Datagram) : PortCapture :=
  let st := checkLength args d { st with received := st.received + 1 }
  match parseVdifHeader d.payload with
  | .error error => { st with headerErrors := st.headerErrors + 1 }.errorPacket error
  | .ok (header, invalid) =>
      markSecond args header (checkSequence header (header.packetId args.framesPerSecond) (checkFields args header invalid st))

def capture (args : CheckerArgs) (packets : List Datagram) : PortCapture := packets.foldl (capturePacket args) initial

def exitCode (st : PortCapture) : Nat :=
  if st.missing ≠ 0 ∨ st.duplicates ≠ 0 ∨ st.reordered ≠ 0 ∨ st.invalid ≠ 0 ∨ st.badLength ≠ 0 ∨ st.headerErrors ≠ 0 then 1 else 0

end PortCapture

-- What ends a capture before the count is reached.
inductive CaptureEnd where
  | timeout
  | interrupt
deriving DecidableEq

def capturePort (args : CheckerArgs) (count : Nat) (packets : List Datagram) (ending : CaptureEnd) : PortCapture :=
  let st := PortCapture.capture args (packets.take count)
  if packets.length < count then
    match ending with
    | .timeout => { st with headerErrors := st.headerErrors + 1 }.report "ERROR receive timeout"
    | .interrupt => st.report "Interrupted by user"
  else st

def Datagram.header (d : Datagram) : CheckerHeader := parseCheckerHeader (unpackWords d.payload)
def Datagram.invalid (d : Datagram) : Bool := headerInvalid (unpackWords d.payload)

namespace PortCapture

def lengthErrors (args : CheckerArgs) (d : Datagram) : Nat := if d.payload.length ≠ args.packetBytes then 1 else 0

theorem check_length_spec (args : CheckerArgs) (d : Datagram) (st : PortCapture) :
    ∃ reports, checkLength args d st = { st with badLength := st.badLength + lengthErrors args d, reports } := by
  rw [checkLength, lengthErrors]
  by_cases wrong : d.payload.length ≠ args.packetBytes
  · rw [if_pos wrong, if_pos wrong]
    exact ⟨_, rfl⟩
  · rw [if_neg wrong, if_neg wrong]
    exact ⟨st.reports, rfl⟩

theorem report_problems (problems : List String) (st : PortCapture) :
    ∃ reports, problems.foldl errorPacket st = { st with reports } := by
  induction problems generalizing st with
  | nil => exact ⟨st.reports, rfl⟩
  | cons problem rest ih => exact ih (st.errorPacket problem)

theorem check_fields_spec (args : CheckerArgs) (header : CheckerHeader) (invalid : Bool) (st : PortCapture) :
    ∃ reports, checkFields args header invalid st =
      { st with
        headerErrors := st.headerErrors + (checkExpected header args).length
        invalid := st.invalid + if invalid then 1 else 0
        reports } := by
  obtain ⟨reports, told⟩ := report_problems (checkExpected header args)
    { st with headerErrors := st.headerErrors + (checkExpected header args).length }
  refine ⟨reports, ?_⟩
  simp only [checkFields, told]
  cases invalid <;> rfl

-- The frames jumped over, whether the id repeats, and whether it falls back.
def gap (previous : Option Nat) (packetId : Nat) : Nat :=
  match previous with
  | none => 0
  | some previous => packetId - (previous + 1)

def repeats (previous : Option Nat) (packetId : Nat) : Nat := if previous = some packetId then 1 else 0

def fallsBack (previous : Option Nat) (packetId : Nat) : Nat :=
  match previous with
  | none => 0
  | some previous => if packetId < previous then 1 else 0

theorem check_sequence_spec (header : CheckerHeader) (packetId : Nat) (st : PortCapture) :
    ∃ reports, checkSequence header packetId st =
      { st with
        missing := st.missing + gap st.previousPacketId packetId
        duplicates := st.duplicates + repeats st.previousPacketId packetId
        reordered := st.reordered + fallsBack st.previousPacketId packetId
        previousPacketId := some packetId
        reports } := by
  cases before : st.previousPacketId with
  | none =>
      simp only [checkSequence, before]
      exact ⟨st.reports, rfl⟩
  | some previous =>
      simp only [checkSequence, before, gap, repeats, fallsBack, Option.some.injEq]
      by_cases ahead : 1 < (packetId : Int) - previous
      · have size : ((packetId : Int) - previous - 1).toNat = packetId - (previous + 1) := by omega
        rw [if_pos ahead, if_neg (by omega), if_neg (by omega), size]
        exact ⟨_, rfl⟩
      · have none_ : packetId - (previous + 1) = 0 := by omega
        rw [if_neg ahead, none_]
        by_cases same : (packetId : Int) - previous = 0
        · rw [if_pos same, if_pos (show previous = packetId by omega), if_neg (show ¬ packetId < previous by omega)]
          exact ⟨_, rfl⟩
        · rw [if_neg same, if_neg (show ¬ previous = packetId by omega)]
          by_cases back : (packetId : Int) - previous < 0
          · rw [if_pos back, if_pos (show packetId < previous by omega)]
            exact ⟨_, rfl⟩
          · rw [if_neg back, if_neg (show ¬ packetId < previous by omega)]
            exact ⟨st.reports, rfl⟩

-- The second that this packet completes.
def completes (args : CheckerArgs) (header : CheckerHeader) (st : PortCapture) : Option Nat :=
  if header.frameNumber ≤ args.framesPerSecond ∧ header.frameNumber % args.framesPerSecond = args.framesPerSecond - 1 ∧
      header.frameNumber % args.framesPerSecond ≠ 0 then
    match st.secondStart with
    | none => none
    | some (packet, second) =>
        if second = header.secondsFromEpoch + header.frameNumber / args.framesPerSecond then some (st.received - packet + 1) else none
  else none

def startsSecond (args : CheckerArgs) (header : CheckerHeader) : Bool :=
  decide (header.frameNumber ≤ args.framesPerSecond) && decide (header.frameNumber % args.framesPerSecond = 0)

theorem mark_second_spec (args : CheckerArgs) (header : CheckerHeader) (st : PortCapture) :
    markSecond args header st =
      { st with
        secondStart :=
          if startsSecond args header then some (st.received, header.secondsFromEpoch + header.frameNumber / args.framesPerSecond)
          else if (completes args header st).isSome then none else st.secondStart
        completeSeconds := st.completeSeconds ++ (completes args header st).toList } := by
  have quiet : startsSecond args header = false → completes args header st = none → st =
      { st with
        secondStart :=
          if startsSecond args header then some (st.received, header.secondsFromEpoch + header.frameNumber / args.framesPerSecond)
          else if (completes args header st).isSome then none else st.secondStart
        completeSeconds := st.completeSeconds ++ (completes args header st).toList } := by
    intro going nothing
    rw [going, nothing]
    simp
  rw [markSecond]
  by_cases inside : header.frameNumber ≤ args.framesPerSecond
  · by_cases start : header.frameNumber % args.framesPerSecond = 0
    · simp [startsSecond, completes, inside, start]
    · have going : startsSecond args header = false := by simp [startsSecond, start]
      by_cases last : header.frameNumber % args.framesPerSecond = args.framesPerSecond - 1
      · rw [if_pos ⟨inside, .inr last⟩, if_neg start]
        rcases Option.eq_none_or_eq_some st.secondStart with begun | ⟨⟨packet, second⟩, begun⟩
        · refine Eq.trans ?_ (quiet going (by simp [completes, begun]))
          rw [begun]
        · by_cases same : second = header.secondsFromEpoch + header.frameNumber / args.framesPerSecond
          · have done : completes args header st = some (st.received - packet + 1) := by
              rw [completes, if_pos ⟨inside, last, start⟩, begun]
              exact if_pos same
            rw [going, done, begun]
            exact if_pos same
          · have nothing : completes args header st = none := by
              rw [completes, if_pos ⟨inside, last, start⟩, begun]
              exact if_neg same
            refine Eq.trans ?_ (quiet going nothing)
            rw [begun]
            exact if_neg same
      · rw [if_neg (fun both => both.2.elim start last)]
        exact quiet going (if_neg fun both => last both.2.1)
  · rw [if_neg (fun both => inside both.1)]
    exact quiet (by simp [startsSecond, inside]) (if_neg fun both => inside both.1)

theorem capture_short (args : CheckerArgs) (st : PortCapture) (d : Datagram) (short : d.payload.length < VDIF.headerSize) :
    ∃ reports, capturePacket args st d =
      { st with
        received := st.received + 1
        badLength := st.badLength + lengthErrors args d
        headerErrors := st.headerErrors + 1
        reports } := by
  obtain ⟨reports, sized⟩ := check_length_spec args d { st with received := st.received + 1 }
  have failed : parseVdifHeader d.payload = .error ("packet has " ++ toString d.payload.length ++ " bytes; VDIF header needs " ++
      toString VDIF.headerSize) := if_pos short
  simp only [capturePacket, sized, failed]
  exact ⟨_, rfl⟩

-- Everything a parsed packet does to the books.
theorem capture_parsed (args : CheckerArgs) (st : PortCapture) (d : Datagram) (enough : VDIF.headerSize ≤ d.payload.length) :
    ∃ reports, capturePacket args st d =
      { received := st.received + 1
        invalid := st.invalid + if d.invalid then 1 else 0
        badLength := st.badLength + lengthErrors args d
        headerErrors := st.headerErrors + (checkExpected d.header args).length
        missing := st.missing + gap st.previousPacketId (d.header.packetId args.framesPerSecond)
        duplicates := st.duplicates + repeats st.previousPacketId (d.header.packetId args.framesPerSecond)
        reordered := st.reordered + fallsBack st.previousPacketId (d.header.packetId args.framesPerSecond)
        previousPacketId := some (d.header.packetId args.framesPerSecond)
        secondStart :=
          if startsSecond args d.header then
            some (st.received + 1, d.header.secondsFromEpoch + d.header.frameNumber / args.framesPerSecond)
          else if (completes args d.header { st with received := st.received + 1 }).isSome then none else st.secondStart
        completeSeconds := st.completeSeconds ++ (completes args d.header { st with received := st.received + 1 }).toList
        reports } := by
  have parsed : parseVdifHeader d.payload = .ok (d.header, d.invalid) := if_neg (Nat.not_lt_of_le enough)
  obtain ⟨lengths, sized⟩ := check_length_spec args d { st with received := st.received + 1 }
  obtain ⟨fields, checked⟩ := check_fields_spec args d.header d.invalid (checkLength args d { st with received := st.received + 1 })
  obtain ⟨reports, sequenced⟩ := check_sequence_spec d.header (d.header.packetId args.framesPerSecond)
    (checkFields args d.header d.invalid (checkLength args d { st with received := st.received + 1 }))
  refine ⟨reports, ?_⟩
  simp only [capturePacket, parsed, mark_second_spec, sequenced]
  rw [checked, sized]
  rfl

structure Clean (st : PortCapture) : Prop where
  missing : st.missing = 0
  duplicates : st.duplicates = 0
  reordered : st.reordered = 0
  invalid : st.invalid = 0
  badLength : st.badLength = 0
  headerErrors : st.headerErrors = 0

theorem exit_clean (st : PortCapture) : st.exitCode = 0 ↔ st.Clean := by
  rw [exitCode]
  by_cases wrong : st.missing ≠ 0 ∨ st.duplicates ≠ 0 ∨ st.reordered ≠ 0 ∨ st.invalid ≠ 0 ∨ st.badLength ≠ 0 ∨ st.headerErrors ≠ 0
  · rw [if_pos wrong]
    exact ⟨fun same => absurd same Nat.one_ne_zero, fun ⟨_, _, _, _, _, _⟩ => by omega⟩
  · rw [if_neg wrong]
    exact ⟨fun _ => ⟨by omega, by omega, by omega, by omega, by omega, by omega⟩, fun _ => rfl⟩

-- A packet that is reported nowhere by itself.
structure Faultless (args : CheckerArgs) (d : Datagram) : Prop where
  length : d.payload.length = args.packetBytes
  fields : checkExpected d.header args = []
  valid : d.invalid = false

theorem capture_clean (args : CheckerArgs) (wide : VDIF.headerSize ≤ args.packetBytes) (st : PortCapture) (d : Datagram) :
    (capturePacket args st d).Clean ↔ st.Clean ∧ Faultless args d ∧
      ∀ previous, st.previousPacketId = some previous → d.header.packetId args.framesPerSecond = previous + 1 := by
  by_cases short : d.payload.length < VDIF.headerSize
  · obtain ⟨reports, taken⟩ := capture_short args st d short
    rw [taken]
    exact ⟨fun clean => absurd clean.headerErrors (Nat.succ_ne_zero _), fun ⟨_, faultless, _⟩ => absurd faultless.length (by omega)⟩
  · obtain ⟨reports, taken⟩ := capture_parsed args st d (by omega)
    rw [taken]
    constructor
    · intro ⟨missing, duplicates, reordered, invalid, badLength, headerErrors⟩
      simp only [Nat.add_eq_zero_iff] at missing duplicates reordered invalid badLength headerErrors
      refine ⟨⟨missing.1, duplicates.1, reordered.1, invalid.1, badLength.1, headerErrors.1⟩, ⟨?_, ?_, ?_⟩, ?_⟩
      · by_contra wrong
        exact absurd badLength.2 (by rw [lengthErrors, if_pos wrong]; exact Nat.one_ne_zero)
      · exact List.length_eq_zero_iff.mp headerErrors.2
      · cases flag : d.invalid with
        | false => rfl
        | true =>
            have counted := invalid.2
            rw [flag] at counted
            cases counted
      · intro previous before
        have forward := missing.2
        have fresh := duplicates.2
        have ordered := reordered.2
        rw [before] at forward fresh ordered
        simp only [gap, repeats, fallsBack, Option.some.injEq, ite_eq_right_iff, Nat.one_ne_zero, imp_false] at forward fresh ordered
        omega
    · intro ⟨clean, faultless, next⟩
      have sized : lengthErrors args d = 0 := if_neg (not_not.mpr faultless.length)
      have sequence : gap st.previousPacketId (d.header.packetId args.framesPerSecond) = 0 ∧
          repeats st.previousPacketId (d.header.packetId args.framesPerSecond) = 0 ∧
          fallsBack st.previousPacketId (d.header.packetId args.framesPerSecond) = 0 := by
        cases before : st.previousPacketId with
        | none => exact ⟨rfl, rfl, rfl⟩
        | some previous =>
            have follows := next previous before
            simp only [gap, repeats, fallsBack, Option.some.injEq, ite_eq_right_iff, Nat.one_ne_zero, imp_false]
            omega
      obtain ⟨forward, fresh, ordered⟩ := sequence
      exact ⟨by rw [clean.missing, forward], by rw [clean.duplicates, fresh], by rw [clean.reordered, ordered],
        by rw [clean.invalid, faultless.valid]; rfl, by rw [clean.badLength, sized], by rw [clean.headerErrors, faultless.fields]; rfl⟩

theorem capture_snoc (args : CheckerArgs) (past : List Datagram) (d : Datagram) :
    capture args (past ++ [d]) = capturePacket args (capture args past) d := by
  rw [capture, List.foldl_append]
  rfl

theorem capture_last (args : CheckerArgs) (wide : VDIF.headerSize ≤ args.packetBytes) (packets : List Datagram)
    (faultless : ∀ d ∈ packets, Faultless args d) :
    (capture args packets).previousPacketId = packets.getLast?.map fun d => d.header.packetId args.framesPerSecond := by
  induction packets using List.reverseRecOn with
  | nil => rfl
  | append_singleton past d ih =>
      have sized := (faultless d (List.mem_append_right _ (List.mem_singleton.mpr rfl))).length
      obtain ⟨reports, taken⟩ := capture_parsed args (capture args past) d (by omega)
      rw [capture_snoc, taken, List.getLast?_concat]
      rfl

-- A stream without a fault in it: every packet as expected, and each the
-- successor of the one before.
structure Seamless (args : CheckerArgs) (packets : List Datagram) : Prop where
  faultless : ∀ d ∈ packets, Faultless args d
  consecutive : (packets.map fun d => d.header.packetId args.framesPerSecond).IsChain fun id next => next = id + 1

theorem seamless_snoc (args : CheckerArgs) (past : List Datagram) (d : Datagram) :
    Seamless args (past ++ [d]) ↔ Seamless args past ∧ Faultless args d ∧
      ∀ last, past.getLast? = some last → d.header.packetId args.framesPerSecond = last.header.packetId args.framesPerSecond + 1 := by
  constructor
  · intro ⟨faultless, consecutive⟩
    rw [List.map_append, List.isChain_append] at consecutive
    obtain ⟨before, _, joint⟩ := consecutive
    refine ⟨⟨fun other member => faultless other (List.mem_append_left _ member), before⟩,
      faultless d (List.mem_append_right _ (List.mem_singleton.mpr rfl)), fun last found => ?_⟩
    exact joint _ (by rw [List.getLast?_map, found]; rfl) _ rfl
  · intro ⟨seamless, faultless, joint⟩
    refine ⟨fun other member => ?_, ?_⟩
    · rcases List.mem_append.mp member with old | new
      · exact seamless.faultless other old
      · rw [List.mem_singleton.mp new]
        exact faultless
    · rw [List.map_append, List.isChain_append]
      refine ⟨seamless.consecutive, List.isChain_singleton _, fun id found next follows => ?_⟩
      rw [List.getLast?_map] at found
      obtain ⟨last, ends, rfl⟩ := Option.map_eq_some_iff.mp found
      cases follows
      exact joint last ends

theorem capture_seamless (args : CheckerArgs) (wide : VDIF.headerSize ≤ args.packetBytes) (packets : List Datagram) :
    (capture args packets).Clean ↔ Seamless args packets := by
  induction packets using List.reverseRecOn with
  | nil => exact ⟨fun _ => ⟨(fun _ member => nomatch member), List.isChain_nil⟩, fun _ => ⟨rfl, rfl, rfl, rfl, rfl, rfl⟩⟩
  | append_singleton past d ih =>
      rw [capture_snoc, capture_clean args wide, seamless_snoc, ih]
      refine and_congr_right fun seamless => and_congr_right fun _ => ?_
      rw [capture_last args wide past seamless.faultless]
      constructor
      · intro follows last found
        exact follows _ (by rw [found]; rfl)
      · intro follows previous before
        obtain ⟨last, found, rfl⟩ := Option.map_eq_some_iff.mp before
        exact follows last found

-- While nothing is wrong the packets since a second began are its frames.
structure Timed (args : CheckerArgs) (st : PortCapture) : Prop where
  begun : ∀ packet second, st.secondStart = some (packet, second) →
    packet ≤ st.received ∧ st.previousPacketId = some (second * args.framesPerSecond + (st.received - packet))
  whole : ∀ n ∈ st.completeSeconds, n = args.framesPerSecond

theorem normalized_id (header : CheckerHeader) (framesPerSecond : Nat) :
    header.packetId framesPerSecond =
      (header.secondsFromEpoch + header.frameNumber / framesPerSecond) * framesPerSecond + header.frameNumber % framesPerSecond := by
  have whole := Nat.div_add_mod' header.frameNumber framesPerSecond
  rw [CheckerHeader.packetId, Nat.add_mul]
  omega

theorem capture_timed (args : CheckerArgs) (wide : VDIF.headerSize ≤ args.packetBytes) (rate : 0 < args.framesPerSecond)
    (st : PortCapture) (d : Datagram) (timed : Timed args st) (clean : (capturePacket args st d).Clean) :
    Timed args (capturePacket args st d) := by
  obtain ⟨_, faultless, follows⟩ := (capture_clean args wide st d).mp clean
  obtain ⟨reports, taken⟩ := capture_parsed args st d (by rw [faultless.length]; exact wide)
  have id := normalized_id d.header args.framesPerSecond
  rw [taken]
  refine ⟨fun packet second begun => ?_, fun n listed => ?_⟩
  · by_cases starts : startsSecond args d.header = true
    · simp only [if_pos starts, Option.some.injEq, Prod.mk.injEq] at begun
      obtain ⟨rfl, rfl⟩ := begun
      have frame : d.header.frameNumber % args.framesPerSecond = 0 := of_decide_eq_true (Bool.and_eq_true_iff.mp starts).2
      exact ⟨Nat.le_refl _, by rw [id, frame, Nat.sub_self]⟩
    · simp only [if_neg starts] at begun
      by_cases ends : (completes args d.header { st with received := st.received + 1 }).isSome = true
      · rw [if_pos ends] at begun
        cases begun
      · rw [if_neg ends] at begun
        obtain ⟨earlier, previous⟩ := timed.begun packet second begun
        have next := follows _ previous
        refine ⟨Nat.le_succ_of_le earlier, congrArg some ?_⟩
        change d.header.packetId args.framesPerSecond = second * args.framesPerSecond + (st.received + 1 - packet)
        omega
  · rcases List.mem_append.mp listed with old | new
    · exact timed.whole n old
    · rw [Option.mem_toList, completes] at new
      by_cases last : d.header.frameNumber ≤ args.framesPerSecond ∧
          d.header.frameNumber % args.framesPerSecond = args.framesPerSecond - 1 ∧ d.header.frameNumber % args.framesPerSecond ≠ 0
      · rw [if_pos last] at new
        cases begun : st.secondStart with
        | none =>
            simp only [begun] at new
            cases new
        | some opening =>
            obtain ⟨packet, second⟩ := opening
            obtain ⟨earlier, previous⟩ := timed.begun packet second begun
            have next := follows _ previous
            simp only [begun] at new
            by_cases same : second = d.header.secondsFromEpoch + d.header.frameNumber / args.framesPerSecond
            · rw [if_pos same, Option.some.injEq] at new
              rw [id, ← same, last.2.1] at next
              omega
            · rw [if_neg same] at new
              cases new
      · rw [if_neg last] at new
        cases new

theorem capture_run_timed (args : CheckerArgs) (wide : VDIF.headerSize ≤ args.packetBytes) (rate : 0 < args.framesPerSecond)
    (packets : List Datagram) (clean : (capture args packets).Clean) : Timed args (capture args packets) := by
  induction packets using List.reverseRecOn with
  | nil => exact ⟨(fun _ _ begun => nomatch begun), (fun _ listed => nomatch listed)⟩
  | append_singleton past d ih =>
      rw [capture_snoc] at clean ⊢
      have before := ((capture_clean args wide (capture args past) d).mp clean).1
      exact capture_timed args wide rate (capture args past) d (ih before) clean

end PortCapture

-- The checker passes a port exactly when the packets it counted are a stream
-- without a fault, and then every complete second had all its frames.
theorem capture_port_passes (args : CheckerArgs) (wide : VDIF.headerSize ≤ args.packetBytes) (rate : 0 < args.framesPerSecond)
    (count : Nat) (packets : List Datagram) (ending : CaptureEnd) :
    ((capturePort args count packets ending).exitCode = 0 ↔
      (count ≤ packets.length ∨ ending = .interrupt) ∧ PortCapture.Seamless args (packets.take count)) ∧
    ((capturePort args count packets ending).exitCode = 0 →
      ∀ n ∈ (capturePort args count packets ending).completeSeconds, n = args.framesPerSecond) := by
  have seamless := PortCapture.capture_seamless args wide (packets.take count)
  have timed := PortCapture.capture_run_timed args wide rate (packets.take count)
  rw [PortCapture.exit_clean]
  unfold capturePort
  extract_lets st
  by_cases short : packets.length < count
  · simp only [if_pos short]
    cases ending with
    | timeout =>
        refine ⟨⟨fun clean => absurd clean.headerErrors (Nat.succ_ne_zero _), fun ⟨ended, _⟩ => ?_⟩,
          fun clean => absurd clean.headerErrors (Nat.succ_ne_zero _)⟩
        rcases ended with enough | other
        · omega
        · cases other
    | interrupt =>
        have same : ((PortCapture.capture args (packets.take count)).report "Interrupted by user").Clean ↔
            (PortCapture.capture args (packets.take count)).Clean :=
          ⟨fun ⟨a, b, c, d, e, f⟩ => ⟨a, b, c, d, e, f⟩, fun ⟨a, b, c, d, e, f⟩ => ⟨a, b, c, d, e, f⟩⟩
        rw [same, seamless]
        exact ⟨⟨fun holds => ⟨.inr rfl, holds⟩, fun both => both.2⟩, fun holds => (timed (seamless.mpr holds)).whole⟩
  · simp only [if_neg short]
    rw [seamless]
    exact ⟨⟨fun holds => ⟨.inl (Nat.le_of_not_lt short), holds⟩, fun both => both.2⟩, fun holds => (timed (seamless.mpr holds)).whole⟩

-- Headers alone, 62499 of one second and 0 of the next.
def bareDatagram (packetId : Nat) : Datagram :=
  ⟨"('10.17.16.11', 4000)", [], ((VDIF.zero.setPacketId packetId).setFrameLength 32).header.toList⟩

def bareArgs : CheckerArgs := ⟨62500, 32, some 0, none, none⟩

theorem capture_port_passes_pair :
    (capturePort bareArgs 2 [bareDatagram 62499, bareDatagram 62500] .timeout).exitCode = 0 := by
  refine (capture_port_passes bareArgs (by decide) (by decide) 2 _ .timeout).1.mpr ⟨.inl (by decide), ⟨fun d member => ?_, ?_⟩⟩
  · rcases List.mem_cons.mp member with rfl | later
    · exact ⟨by decide +kernel, by decide +kernel, by decide +kernel⟩
    · rw [List.mem_singleton.mp later]
      exact ⟨by decide +kernel, by decide +kernel, by decide +kernel⟩
  · exact List.isChain_cons_cons.mpr ⟨by decide +kernel, List.isChain_singleton _⟩

end SpectralLine
