import SpectralLine.Recv
import SpectralLine.Quantize

set_option autoImplicit false

namespace SpectralLine

def framePayload : Nat := 8192
def maxFileSize : Nat := 8 * 1024 * 1024 * 1024

-- The last repetition of a writev call: EINTR repeats it with the same arguments.
inductive WritevResult where
  | written (count : Nat)
  | failed
deriving DecidableEq

-- The outside of the recorder. createFile answers the nth create_file call,
-- with the message of its failing directory, name or open step.
structure RecorderEnv where
  iovMax : Nat
  iovMaxPos : 0 < iovMax
  avx512 : Bool
  createFile : Nat → Except String Unit
  writev : Nat → WritevResult

-- parts[k] is the content of the file named part k; fd is the part being written.
structure Recorder where
  fd : Option Nat
  currentSize : Nat
  fileIndex : Nat
  parts : List (List Byte)
  opens : Nat
  writes : Nat
deriving DecidableEq

def Recorder.initial : Recorder := ⟨none, 0, 0, [], 0, 0⟩

def openTrunc (parts : List (List Byte)) (index : Nat) : List (List Byte) :=
  if index < parts.length then parts.set index [] else parts ++ [[]]

def createFile (env : RecorderEnv) (r : Recorder) : Recorder × Option String :=
  match env.createFile r.opens with
  | .error message => ({ r with opens := r.opens + 1 }, some message)
  | .ok () =>
      ({ r with
        fd := some r.fileIndex
        currentSize := 0
        fileIndex := (r.fileIndex + 1) % 2 ^ 32
        parts := openTrunc r.parts r.fileIndex
        opens := r.opens + 1 }, none)

def Recorder.append (r : Recorder) (part : Nat) (bytes : List Byte) : Recorder :=
  { r with
    currentSize := (r.currentSize + bytes.length) % 2 ^ 64
    parts := r.parts.modify part (· ++ bytes)
    writes := r.writes + 1 }

-- The inner loop of write_all_iov: whole entries are skipped, the next is cut.
def consumeIov (remaining : Nat) : List (List Byte) → List (List Byte)
  | [] => []
  | entry :: rest =>
      if remaining = 0 then entry :: rest
      else if entry.length ≤ remaining then consumeIov (remaining - entry.length) rest
      else entry.drop remaining :: rest

theorem consume_flatten (remaining : Nat) (iov : List (List Byte)) :
    (consumeIov remaining iov).flatten = iov.flatten.drop remaining := by
  induction iov generalizing remaining with
  | nil => simp [consumeIov]
  | cons entry rest ih =>
      rw [consumeIov]
      by_cases finished : remaining = 0
      · simp [finished]
      by_cases whole : entry.length ≤ remaining
      · rw [if_neg finished, if_pos whole, ih, List.flatten_cons, List.drop_append, List.drop_of_length_le whole]
        rfl
      · rw [if_neg finished, if_neg whole, List.flatten_cons, List.flatten_cons, List.drop_append_of_le_length (by omega)]

theorem offered_begins (count : Nat) (iov : List (List Byte)) : (iov.take count).flatten <+: iov.flatten := by
  refine ⟨(iov.drop count).flatten, ?_⟩
  rw [← List.flatten_append, List.take_append_drop]

-- The bytes one writev takes when it may take `count`.
def writtenBytes (env : RecorderEnv) (iov : List (List Byte)) (count : Nat) : List Byte :=
  (iov.take env.iovMax).flatten.take count

theorem written_begins (env : RecorderEnv) (iov : List (List Byte)) (count : Nat) :
    writtenBytes env iov count <+: iov.flatten :=
  (List.take_prefix count _).trans (offered_begins env.iovMax iov)

def writeAllIov (env : RecorderEnv) (r : Recorder) (iov : List (List Byte)) : Recorder × Bool :=
  if iov.isEmpty then (r, true)
  else
    match r.fd, env.writev r.writes with
    | some part, .written count =>
        if (writtenBytes env iov count).length = 0 then ({ r with writes := r.writes + 1 }, false)
        else
          writeAllIov env (r.append part (writtenBytes env iov count))
            (consumeIov (writtenBytes env iov count).length iov)
    | _, _ => ({ r with writes := r.writes + 1 }, false)
termination_by iov.flatten.length
decreasing_by
  have inside := (written_begins env iov count).length_le
  rw [consume_flatten, List.length_drop]
  omega

-- Header and quantised payload of every slot, in slot order.
def frameIov (env : RecorderEnv) (cfg : StreamConfig) (header : VDIF) (packet : Packet) : List (List Byte) :=
  [header.header.toList,
    (quantize cfg.basebandBits env.avx512 packet.payload framePayload).take (framePayload * cfg.basebandBits.toNat / 8)]

def batchIov (env : RecorderEnv) (cfg : StreamConfig) (batch : PacketBatch cfg.batchsize) : List (List Byte) :=
  (List.finRange cfg.batchsize).flatMap fun i => frameIov env cfg (batch.hdrs i) (batch.buffer i)

-- The count, width and storage checks of recoder hold by the types of the
-- batch and of the configuration.
def recoder (env : RecorderEnv) (cfg : StreamConfig) (r : Recorder) (batch : PacketBatch cfg.batchsize) : Recorder :=
  let payloadBytes := framePayload * cfg.basebandBits.toNat / 8
  let batchBytes := cfg.batchsize * (VDIF.headerSize + payloadBytes) % 2 ^ 64
  let r :=
    if r.currentSize ≠ 0 ∧ maxFileSize < (r.currentSize + batchBytes) % 2 ^ 64 then (createFile env r).1 else r
  (writeAllIov env r (batchIov env cfg batch)).1

-- The constructor, which throws when the first part cannot be created.
def baseband (env : RecorderEnv) (subbandId : Nat) : Except String Recorder :=
  match createFile env Recorder.initial with
  | (_, some _) => .error s!"baseband: initial output file creation failed for subband {subbandId}"
  | (r, none) => .ok r

def record (env : RecorderEnv) (cfg : StreamConfig) (batches : List (PacketBatch cfg.batchsize)) :
    Except String Recorder :=
  (baseband env (cfg.ringId / 2)).map fun r => batches.foldl (recoder env cfg) r

end SpectralLine
