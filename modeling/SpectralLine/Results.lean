import SpectralLine.Turns
import SpectralLine.Lib.Ledger

set_option autoImplicit false

namespace SpectralLine

open Streams

-- The host fields of a slot; data and sumPower are slotData and slotSum.
structure HostRingSlot where
  firstTimestampNs : Nat
  lastTimestampNs : Nat
  noiseState : NoiseState

section

variable {𝕜 : Type} (cfg : GpuConfig 𝕜)

-- A slot as it stands when `used` is set.
structure IntegrationResult where
  slot : Fin numSlots
  data : Stokes cfg
  sumPower : 𝕜
  firstTimestampNs : Nat
  lastTimestampNs : Nat
  noiseState : NoiseState

structure ResultSide where
  memory : DeviceMemory cfg
  slots : Fin numSlots → HostRingSlot
  published : List (IntegrationResult cfg)

def snapshot (r : ResultSide cfg) (slot : Fin numSlots) : IntegrationResult cfg where
  slot
  data := r.memory (.slotData slot)
  sumPower := r.memory (.slotSum slot)
  firstTimestampNs := (r.slots slot).firstTimestampNs
  lastTimestampNs := (r.slots slot).lastTimestampNs
  noiseState := (r.slots slot).noiseState

def storeSlot (slots : Fin numSlots → HostRingSlot) : SlotAction → Fin numSlots → HostRingSlot
  | .setFirst slot t => Function.update slots slot { slots slot with firstTimestampNs := t }
  | .setLast slot t => Function.update slots slot { slots slot with lastTimestampNs := t }
  | .setNoise slot noise => Function.update slots slot { slots slot with noiseState := noise }
  | .publish _ => slots

variable [Field 𝕜]

def execute (r : ResultSide cfg) : GpuInstr cfg → ResultSide cfg
  | .host (.publish slot) => { r with published := r.published ++ [snapshot cfg r slot] }
  | .host action => { r with slots := storeSlot r.slots action }
  | i => { r with memory := execInstr (gpuDevice cfg) i r.memory }

def executeAll (instrs : List (GpuInstr cfg)) (r : ResultSide cfg) : ResultSide cfg := instrs.foldl (execute cfg) r

def ResultSide.initial : ResultSide cfg where
  memory := initialMemory cfg
  slots := fun _ => ⟨0, 0, .off⟩
  published := []

@[simp] theorem execute_all_nil (r : ResultSide cfg) : executeAll cfg [] r = r := rfl

@[simp] theorem execute_all_cons (i : GpuInstr cfg) (rest : List (GpuInstr cfg)) (r : ResultSide cfg) :
    executeAll cfg (i :: rest) r = executeAll cfg rest (execute cfg r i) := rfl

@[simp] theorem execute_all_append (xs ys : List (GpuInstr cfg)) (r : ResultSide cfg) :
    executeAll cfg (xs ++ ys) r = executeAll cfg ys (executeAll cfg xs r) := List.foldl_append

theorem execute_memory (r : ResultSide cfg) (i : GpuInstr cfg) :
    (execute cfg r i).memory = execInstr (gpuDevice cfg) i r.memory := by
  cases i with
  | launch s op => rfl
  | record e s => rfl
  | wait s e => rfl
  | synchronize e => rfl
  | host action => cases action <;> rfl

theorem execute_all_memory (instrs : List (GpuInstr cfg)) (r : ResultSide cfg) :
    (executeAll cfg instrs r).memory = execAll (gpuDevice cfg) instrs r.memory := by
  induction instrs generalizing r with
  | nil => rfl
  | cons i rest ih => rw [execute_all_cons, ih, execute_memory, exec_all_cons]

theorem execute_launch (r : ResultSide cfg) (s : CudaStream) (op : DeviceOp cfg) :
    execute cfg r (.launch s op) = { r with memory := Function.update r.memory op.dst (op.value r.memory) } := rfl

theorem execute_set_last (r : ResultSide cfg) (slot : Fin numSlots) (t : Nat) :
    execute cfg r (.host (.setLast slot t)) = { r with slots := storeSlot r.slots (.setLast slot t) } := rfl

theorem execute_all_quiet (instrs : List (GpuInstr cfg)) (r : ResultSide cfg)
    (quiet : ∀ action, Instr.host action ∉ instrs) :
    executeAll cfg instrs r = { r with memory := execAll (gpuDevice cfg) instrs r.memory } := by
  induction instrs generalizing r with
  | nil => rfl
  | cons i rest ih =>
      rw [execute_all_cons, ih _ fun action member => quiet action (List.mem_cons_of_mem i member), exec_all_cons]
      cases i with
      | launch s op => rfl
      | record e s => rfl
      | wait s e => rfl
      | synchronize e => rfl
      | host action => exact absurd (List.mem_cons_self ..) (quiet action)

def exposed (acc : NoiseState) (slot : Fin numSlots) (r : ResultSide cfg) (first last : Nat) : IntegrationResult cfg where
  slot
  data := if cfg.spectral then r.memory (.stokes acc) else r.memory (.slotData slot)
  sumPower := if cfg.spectral then r.memory (.slotSum slot) else r.memory (.sumPower acc)
  firstTimestampNs := first
  lastTimestampNs := last
  noiseState := acc

theorem expose_published (acc : NoiseState) (slot : Fin numSlots) (r : ResultSide cfg) :
    (executeAll cfg (exposeSlot cfg acc slot) r).published =
      r.published ++ [exposed cfg acc slot r (r.slots slot).firstTimestampNs (r.slots slot).lastTimestampNs] := by
  cases mode : cfg.spectral with
  | true =>
      simp [exposeSlot, mode, execute, snapshot, exposed, storeSlot, execInstr, Device.exec, gpuDevice, DeviceOp.dst,
        DeviceOp.value]
  | false =>
      simp [exposeSlot, mode, execute, snapshot, exposed, storeSlot, execInstr, Device.exec, gpuDevice, DeviceOp.dst,
        DeviceOp.value]

theorem expose_accumulators (acc : NoiseState) (slot : Fin numSlots) (r : ResultSide cfg) (c : NoiseState) :
    (executeAll cfg (exposeSlot cfg acc slot) r).memory (.stokes c) = r.memory (.stokes c) ∧
    (executeAll cfg (exposeSlot cfg acc slot) r).memory (.sumPower c) = r.memory (.sumPower c) := by
  rw [execute_all_memory]
  constructor
  all_goals
    apply exec_untouched
    intro s op member same
    cases mode : cfg.spectral <;> simp [exposeSlot, mode] at member <;> simp [member.2, DeviceOp.dst] at same

end

end SpectralLine
