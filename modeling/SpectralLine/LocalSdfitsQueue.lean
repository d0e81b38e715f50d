import SpectralLine.SpectrumSender
import SpectralLine.Worker

set_option autoImplicit false

namespace SpectralLine

-- LocalSdfitsWriter::Job; the floats are their bit patterns.
structure SdfitsJob where
  header : PackedSpectrumHeader
  data : List Word
deriving DecidableEq

def SdfitsJob.bytes (job : SdfitsJob) : Nat := job.data.length * 4

-- The arguments of enqueue; a payload is readable for payload_bytes.
structure EnqueueCall where
  header : PackedSpectrumHeader
  payload : Option (List Word)
  payloadBytes : Nat
  readable : ∀ floats, payload = some floats → payloadBytes ≤ floats.length * 4

def EnqueueCall.job (call : EnqueueCall) : Option SdfitsJob :=
  match call.payload with
  | none => none
  | some floats =>
      if call.payloadBytes = 0 ∨ call.payloadBytes % 4 ≠ 0 then none
      else some ⟨call.header, floats.take (call.payloadBytes / 4)⟩

-- A sender thread around the critical section of enqueue.
inductive SenderPhase where
  | idle
  | built (call : EnqueueCall) (job : SdfitsJob)
  | notifying
  | returned (value : Bool)

-- The worker at the top of its loop, blocked on ready_, with a job in hand, or
-- past the loop.
inductive WriterPhase where
  | checking
  | waiting
  | writing (job : SdfitsJob)
  | finished
deriving DecidableEq

inductive ShutdownPhase where
  | idle
  | notifying
  | joining
  | joined
  | returned
deriving DecidableEq, Repr

-- accepted and handed record the calls that enqueue accepts and the jobs passed
-- to write_job.
structure LocalSdfitsQueue where
  enabled : Bool
  stopping : Bool
  maxQueueBytes : Nat
  queuedBytes : Nat
  queue : List SdfitsJob
  senders : Nat → SenderPhase
  worker : WriterPhase
  shutdown : ShutdownPhase
  accepted : List EnqueueCall
  handed : List SdfitsJob

namespace LocalSdfitsQueue

-- configure(true, ..) of a writer that was not configured before.
def configure (outputFolder : String) (maxQueueBytes : Nat) (createDirectories : Except String Unit) :
    Except String LocalSdfitsQueue :=
  if outputFolder.isEmpty then .error "Local SDFITS output folder is empty"
  else if maxQueueBytes = 0 then .error "Local SDFITS queue size must be greater than zero"
  else
    createDirectories.map fun _ => {
      enabled := true
      stopping := false
      maxQueueBytes
      queuedBytes := 0
      queue := []
      senders := fun _ => .idle
      worker := .checking
      shutdown := .idle
      accepted := []
      handed := [] }

inductive Action where
  | enqueue (sender : Nat) (call : EnqueueCall)
  | lock (sender : Nat)
  | notify (sender : Nat)
  | work
  | wake
  | write
  | stop
  | notifyAll
  | join
  | disable

def setSender (q : LocalSdfitsQueue) (sender : Nat) (phase : SenderPhase) : LocalSdfitsQueue :=
  { q with senders := Function.update q.senders sender phase }

@[simp] theorem set_sender_same (q : LocalSdfitsQueue) (sender : Nat) (phase : SenderPhase) :
    (q.setSender sender phase).senders sender = phase := by
  rw [setSender]
  exact Function.update_self sender phase q.senders

@[simp] theorem set_sender_other (q : LocalSdfitsQueue) (sender other : Nat) (phase : SenderPhase) (different : other ≠ sender) :
    (q.setSender sender phase).senders other = q.senders other := by
  rw [setSender]
  exact Function.update_of_ne different phase q.senders

def totalBytes (jobs : List SdfitsJob) : Nat := (jobs.map SdfitsJob.bytes).sum

-- The load of enabled_, the argument checks and the copy of the payload.
def enqueue (q : LocalSdfitsQueue) (sender : Nat) (call : EnqueueCall) : LocalSdfitsQueue :=
  if q.enabled = false then q.setSender sender (.returned true)
  else
    match call.job with
    | none => q.setSender sender (.returned false)
    | some job => q.setSender sender (.built call job)

def push (q : LocalSdfitsQueue) (sender : Nat) (call : EnqueueCall) (job : SdfitsJob) : LocalSdfitsQueue :=
  if q.stopping = true ∨ q.maxQueueBytes < (q.queuedBytes + call.payloadBytes) % 2 ^ 64 then
    q.setSender sender (.returned false)
  else
    { q with
      queuedBytes := (q.queuedBytes + call.payloadBytes) % 2 ^ 64
      queue := q.queue ++ [job]
      senders := Function.update q.senders sender .notifying
      accepted := q.accepted ++ [call] }

def awake (q : LocalSdfitsQueue) : WriterPhase := if q.worker = .waiting then .checking else q.worker

-- The critical section of run: the wait's predicate, then the exit or the next
-- job.
def pop (q : LocalSdfitsQueue) : LocalSdfitsQueue :=
  match q.queue with
  | [] => if q.stopping then { q with worker := .finished } else { q with worker := .waiting }
  | job :: rest => { q with worker := .writing job, queuedBytes := sub64 q.queuedBytes job.bytes, queue := rest }

-- `none`: the thread is not there, or waits.
def step (q : LocalSdfitsQueue) : Action → Option LocalSdfitsQueue
  | .enqueue sender call =>
      match q.senders sender with
      | .idle => some (q.enqueue sender call)
      | .returned _ => some (q.enqueue sender call)
      | _ => none
  | .lock sender =>
      match q.senders sender with
      | .built call job =>
          -- The queued jobs and this one are allocated at the same time.
          if totalBytes q.queue + job.bytes < 2 ^ 64 then some (q.push sender call job) else none
      | _ => none
  | .notify sender =>
      match q.senders sender with
      | .notifying => some { q.setSender sender (.returned true) with worker := q.awake }
      | _ => none
  | .work => if q.worker = .checking then some q.pop else none
  | .wake => if q.worker = .waiting then some { q with worker := .checking } else none
  | .write =>
      match q.worker with
      | .writing job => some { q with worker := .checking, handed := q.handed ++ [job] }
      | _ => none
  | .stop =>
      if q.shutdown = .idle then
        if q.enabled then some { q with stopping := true, shutdown := .notifying } else some { q with shutdown := .returned }
      else none
  | .notifyAll => if q.shutdown = .notifying then some { q with shutdown := .joining, worker := q.awake } else none
  | .join => if q.shutdown = .joining ∧ q.worker = .finished then some { q with shutdown := .joined } else none
  | .disable => if q.shutdown = .joined then some { q with enabled := false, shutdown := .returned } else none

def inHand (q : LocalSdfitsQueue) : List SdfitsJob :=
  match q.worker with
  | .writing job => [job]
  | _ => []

end LocalSdfitsQueue

namespace EnqueueCall

-- The job is the header and the payload's floats, all of them.
theorem job_bytes (call : EnqueueCall) (job : SdfitsJob) (built : call.job = some job) : job.bytes = call.payloadBytes := by
  rw [EnqueueCall.job] at built
  cases memory : call.payload with
  | none =>
      rw [memory] at built
      cases built
  | some floats =>
      rw [memory] at built
      by_cases invalid : call.payloadBytes = 0 ∨ call.payloadBytes % 4 ≠ 0
      · simp only [if_pos invalid] at built
        cases built
      · simp only [if_neg invalid] at built
        cases built
        have readable := call.readable floats memory
        rw [SdfitsJob.bytes, List.length_take]
        omega

end EnqueueCall

namespace LocalSdfitsQueue

structure QueueSafe (q : LocalSdfitsQueue) : Prop where
  accounting : q.queuedBytes = totalBytes q.queue
  bounded : totalBytes q.queue ≤ q.maxQueueBytes
  resident : totalBytes q.queue < 2 ^ 64
  order : q.accepted.map EnqueueCall.job = (q.handed ++ (q.inHand ++ q.queue)).map some
  building : ∀ sender call job, q.senders sender = .built call job → call.job = some job
  finished : q.worker = .finished → q.queue = [] ∧ q.stopping = true
  enabled : q.enabled = false → q.shutdown = .returned
  stopping : q.shutdown ≠ .idle → q.stopping = true
  joined : q.shutdown = .joined ∨ q.shutdown = .returned → q.worker = .finished
  asleep : q.worker = .waiting → q.stopping = true → q.shutdown = .notifying
  notified : q.worker = .waiting → q.queue = [] ∨ ∃ sender, q.senders sender = .notifying

theorem total_bytes_append (jobs : List SdfitsJob) (job : SdfitsJob) : totalBytes (jobs ++ [job]) = totalBytes jobs + job.bytes := by
  rw [totalBytes, List.map_append, List.sum_append, List.map_singleton, List.sum_singleton, totalBytes]

theorem awake_not_waiting (q : LocalSdfitsQueue) : q.awake ≠ .waiting := by
  rw [awake]
  by_cases asleep : q.worker = .waiting
  · rw [if_pos asleep]
    exact WriterPhase.noConfusion
  · rwa [if_neg asleep]

theorem awake_finished (q : LocalSdfitsQueue) : q.awake = .finished ↔ q.worker = .finished := by
  rw [awake]
  by_cases asleep : q.worker = .waiting
  · rw [if_pos asleep, asleep]
    exact ⟨fun other => (nomatch other), fun other => (nomatch other)⟩
  · rw [if_neg asleep]

theorem awake_in_hand (q : LocalSdfitsQueue) : inHand { q with worker := q.awake } = q.inHand := by
  rw [inHand, inHand, awake]
  cases q.worker <;> rfl

theorem safe_configure (outputFolder : String) (maxQueueBytes : Nat) (createDirectories : Except String Unit) (q : LocalSdfitsQueue)
    (configured : configure outputFolder maxQueueBytes createDirectories = .ok q) : QueueSafe q := by
  rw [configure] at configured
  by_cases nameless : outputFolder.isEmpty = true
  · rw [if_pos nameless] at configured
    cases configured
  by_cases empty : maxQueueBytes = 0
  · rw [if_neg nameless, if_pos empty] at configured
    cases configured
  rw [if_neg nameless, if_neg empty] at configured
  cases createDirectories with
  | error failure => cases configured
  | ok =>
      cases configured
      exact {
        accounting := rfl
        bounded := Nat.zero_le _
        resident := Nat.two_pow_pos 64
        order := rfl
        building := fun _ _ _ none => nomatch none
        finished := fun none => nomatch none
        enabled := fun none => nomatch none
        stopping := fun none => absurd rfl none
        joined := fun none => by rcases none with none | none <;> cases none
        asleep := fun none => nomatch none
        notified := fun none => nomatch none }

theorem safe_sender (q : LocalSdfitsQueue) (sender : Nat) (phase : SenderPhase) (safe : QueueSafe q)
    (builds : ∀ call job, phase = .built call job → call.job = some job) (quiet : q.senders sender ≠ .notifying) :
    QueueSafe (q.setSender sender phase) :=
  { safe with
    building := by
      intro other call job found
      by_cases same : other = sender
      · subst same
        rw [set_sender_same] at found
        exact builds call job found
      · rw [set_sender_other q sender other phase same] at found
        exact safe.building other call job found
    notified := by
      intro asleep
      rcases safe.notified asleep with none | ⟨other, notifying⟩
      · exact Or.inl none
      · have different : other ≠ sender := fun same => quiet (same ▸ notifying)
        exact Or.inr ⟨other, (set_sender_other q sender other phase different).trans notifying⟩ }

theorem safe_enqueue (q : LocalSdfitsQueue) (sender : Nat) (call : EnqueueCall) (safe : QueueSafe q)
    (quiet : q.senders sender ≠ .notifying) : QueueSafe (q.enqueue sender call) := by
  rw [enqueue]
  by_cases off : q.enabled = false
  · rw [if_pos off]
    exact safe_sender q sender _ safe (fun _ _ none => nomatch none) quiet
  · rw [if_neg off]
    cases built : call.job with
    | none => exact safe_sender q sender _ safe (fun _ _ none => nomatch none) quiet
    | some job =>
        refine safe_sender q sender _ safe (fun other found same => ?_) quiet
        cases same
        exact built

theorem safe_push (q : LocalSdfitsQueue) (sender : Nat) (call : EnqueueCall) (job : SdfitsJob) (safe : QueueSafe q)
    (building : q.senders sender = .built call job) (fits : totalBytes q.queue + job.bytes < 2 ^ 64) :
    QueueSafe (q.push sender call job) := by
  have built := safe.building sender call job building
  have size := EnqueueCall.job_bytes call job built
  have sum : (q.queuedBytes + call.payloadBytes) % 2 ^ 64 = totalBytes (q.queue ++ [job]) := by
    rw [safe.accounting, ← size, Nat.mod_eq_of_lt fits, total_bytes_append]
  rw [push]
  by_cases refuses : q.stopping = true ∨ q.maxQueueBytes < (q.queuedBytes + call.payloadBytes) % 2 ^ 64
  · rw [if_pos refuses]
    exact safe_sender q sender _ safe (fun _ _ none => nomatch none) (by rw [building]; exact SenderPhase.noConfusion)
  · rw [if_neg refuses]
    obtain ⟨running, room⟩ := not_or.mp refuses
    exact {
      accounting := sum
      bounded := by
        rw [sum] at room
        exact Nat.le_of_not_lt room
      resident := by
        rw [total_bytes_append]
        exact fits
      order := by
        change (q.accepted ++ [call]).map EnqueueCall.job = (q.handed ++ (q.inHand ++ (q.queue ++ [job]))).map some
        rw [List.map_append, safe.order, List.map_singleton, built]
        simp only [List.map_append, List.append_assoc, List.map_cons, List.map_nil]
      building := by
        intro other otherCall otherJob found
        by_cases same : other = sender
        · subst same
          simp only [Function.update_self] at found
          cases found
        · simp only [Function.update_of_ne same] at found
          exact safe.building other otherCall otherJob found
      finished := fun ended => absurd (safe.finished ended).2 running
      enabled := safe.enabled
      stopping := safe.stopping
      joined := safe.joined
      asleep := safe.asleep
      notified := fun _ => Or.inr ⟨sender, Function.update_self sender _ _⟩ }

theorem safe_awake (q : LocalSdfitsQueue) (safe : QueueSafe q) : QueueSafe { q with worker := q.awake } :=
  { safe with
    order := by
      rw [awake_in_hand]
      exact safe.order
    finished := fun ended => safe.finished ((awake_finished q).mp ended)
    joined := fun ended => (awake_finished q).mpr (safe.joined ended)
    asleep := fun asleep => absurd asleep (awake_not_waiting q)
    notified := fun asleep => absurd asleep (awake_not_waiting q) }

theorem safe_notify (q : LocalSdfitsQueue) (sender : Nat) (safe : QueueSafe q) :
    QueueSafe { q.setSender sender (.returned true) with worker := q.awake } :=
  { safe_awake q safe with
    building := by
      intro other call job found
      by_cases same : other = sender
      · subst same
        have returned : .returned true = SenderPhase.built call job := (set_sender_same q other _).symm.trans found
        cases returned
      · exact safe.building other call job ((set_sender_other q sender other _ same).symm.trans found)
    notified := fun asleep => absurd asleep (awake_not_waiting q) }

theorem sub64_exact (total part : Nat) (inside : part ≤ total) (small : total < 2 ^ 64) : sub64 total part = total - part := by
  rw [sub64]
  omega

theorem pop_exit (q : LocalSdfitsQueue) (empty : q.queue = []) (stopped : q.stopping = true) :
    q.pop = { q with worker := .finished } := by
  simp only [pop, empty, stopped, if_true]

theorem pop_wait (q : LocalSdfitsQueue) (empty : q.queue = []) (running : q.stopping = false) :
    q.pop = { q with worker := .waiting } := by
  simp only [pop, empty, running, Bool.false_eq_true, if_false]

theorem pop_job (q : LocalSdfitsQueue) (job : SdfitsJob) (rest : List SdfitsJob) (content : q.queue = job :: rest) :
    q.pop = { q with worker := .writing job, queuedBytes := sub64 q.queuedBytes job.bytes, queue := rest } := by
  simp only [pop, content]

theorem safe_pop (q : LocalSdfitsQueue) (safe : QueueSafe q) (checking : q.worker = .checking) : QueueSafe q.pop := by
  have running : ¬ (q.shutdown = .joined ∨ q.shutdown = .returned) := by
    intro ended
    rw [safe.joined ended] at checking
    cases checking
  have order := safe.order
  rw [inHand, checking] at order
  cases content : q.queue with
  | nil =>
      cases stopped : q.stopping with
      | true =>
          rw [pop_exit q content stopped]
          exact { safe with
            order := order
            finished := fun _ => ⟨content, stopped⟩
            joined := fun _ => rfl
            asleep := fun none => nomatch none
            notified := fun none => nomatch none }
      | false =>
          rw [pop_wait q content stopped]
          exact { safe with
            order := order
            finished := fun none => nomatch none
            joined := fun ended => absurd ended running
            asleep := fun _ stopping => nomatch stopped.symm.trans stopping
            notified := fun _ => Or.inl content }
  | cons job rest =>
      have total : totalBytes q.queue = job.bytes + totalBytes rest := by
        rw [content, totalBytes, List.map_cons, List.sum_cons, totalBytes]
      have bounded := safe.bounded
      have resident := safe.resident
      have left : sub64 q.queuedBytes job.bytes = totalBytes rest := by
        rw [safe.accounting, sub64_exact _ _ (by omega) resident]
        omega
      rw [content] at order
      rw [pop_job q job rest content]
      exact { safe with
        accounting := left
        bounded := Nat.le_trans (Nat.le_add_left _ _) (total ▸ bounded)
        resident := Nat.lt_of_le_of_lt (Nat.le_add_left _ _) (total ▸ resident)
        order := order
        finished := fun none => nomatch none
        joined := fun ended => absurd ended running
        asleep := fun none => nomatch none
        notified := fun none => nomatch none }

theorem safe_wake (q : LocalSdfitsQueue) (safe : QueueSafe q) (asleep : q.worker = .waiting) :
    QueueSafe { q with worker := .checking } := by
  have woken : q.awake = .checking := by rw [awake, if_pos asleep]
  have safeAwake := safe_awake q safe
  rwa [woken] at safeAwake

theorem safe_write (q : LocalSdfitsQueue) (job : SdfitsJob) (safe : QueueSafe q) (writing : q.worker = .writing job) :
    QueueSafe { q with worker := .checking, handed := q.handed ++ [job] } := by
  have running : ¬ (q.shutdown = .joined ∨ q.shutdown = .returned) := by
    intro ended
    rw [safe.joined ended] at writing
    cases writing
  have order := safe.order
  rw [inHand, writing, ← List.append_assoc] at order
  exact { safe with
    order := order
    finished := fun none => nomatch none
    joined := fun ended => absurd ended running
    asleep := fun none => nomatch none
    notified := fun none => nomatch none }

theorem safe_stop (q : LocalSdfitsQueue) (safe : QueueSafe q) (called : q.shutdown = .idle) :
    q.enabled = true ∧ QueueSafe { q with stopping := true, shutdown := .notifying } := by
  have on : q.enabled = true := by
    cases enabled : q.enabled with
    | true => rfl
    | false =>
        rw [safe.enabled enabled] at called
        cases called
  refine ⟨on, { safe with
    finished := fun ended => ⟨(safe.finished ended).1, rfl⟩
    enabled := fun off => absurd (on.symm.trans off) (by decide)
    stopping := fun _ => rfl
    joined := fun ended => by rcases ended with ended | ended <;> cases ended
    asleep := fun _ _ => rfl }⟩

theorem safe_notify_all (q : LocalSdfitsQueue) (safe : QueueSafe q) (called : q.shutdown = .notifying) :
    QueueSafe { q with shutdown := .joining, worker := q.awake } := by
  have stopped : q.stopping = true := safe.stopping (by rw [called]; exact ShutdownPhase.noConfusion)
  exact { safe_awake q safe with
    enabled := fun off => by
      have ended := safe.enabled off
      rw [called] at ended
      cases ended
    stopping := fun _ => stopped
    joined := fun ended => by rcases ended with ended | ended <;> cases ended
    asleep := fun asleep => absurd asleep (awake_not_waiting q) }

theorem safe_join (q : LocalSdfitsQueue) (safe : QueueSafe q) (joining : q.shutdown = .joining) (ended : q.worker = .finished) :
    QueueSafe { q with shutdown := .joined } :=
  { safe with
    enabled := fun off => by
      have returned := safe.enabled off
      rw [joining] at returned
      cases returned
    stopping := fun _ => (safe.finished ended).2
    joined := fun _ => ended
    asleep := fun asleep => by
      rw [ended] at asleep
      cases asleep }

theorem safe_disable (q : LocalSdfitsQueue) (safe : QueueSafe q) (joined : q.shutdown = .joined) :
    QueueSafe { q with enabled := false, shutdown := .returned } := by
  have ended := safe.joined (Or.inl joined)
  exact { safe with
    enabled := fun _ => rfl
    stopping := fun _ => (safe.finished ended).2
    joined := fun _ => ended
    asleep := fun asleep => by
      rw [ended] at asleep
      cases asleep }

theorem enqueue_taken (q next : LocalSdfitsQueue) (sender : Nat) (call : EnqueueCall)
    (taken : q.step (.enqueue sender call) = some next) : q.senders sender ≠ .notifying ∧ next = q.enqueue sender call := by
  rw [step] at taken
  cases phase : q.senders sender with
  | idle =>
      rw [phase] at taken
      exact ⟨SenderPhase.noConfusion, (Option.some.inj taken).symm⟩
  | returned value =>
      rw [phase] at taken
      exact ⟨SenderPhase.noConfusion, (Option.some.inj taken).symm⟩
  | built earlier job =>
      rw [phase] at taken
      cases taken
  | notifying =>
      rw [phase] at taken
      cases taken

theorem lock_taken (q next : LocalSdfitsQueue) (sender : Nat) (taken : q.step (.lock sender) = some next) :
    ∃ call job, q.senders sender = .built call job ∧ totalBytes q.queue + job.bytes < 2 ^ 64 ∧ next = q.push sender call job := by
  rw [step] at taken
  cases phase : q.senders sender with
  | built call job =>
      rw [phase] at taken
      obtain ⟨fits, same⟩ := Option.ite_none_right_eq_some.mp taken
      exact ⟨call, job, rfl, fits, (Option.some.inj same).symm⟩
  | idle =>
      rw [phase] at taken
      cases taken
  | returned value =>
      rw [phase] at taken
      cases taken
  | notifying =>
      rw [phase] at taken
      cases taken

theorem notify_taken (q next : LocalSdfitsQueue) (sender : Nat) (taken : q.step (.notify sender) = some next) :
    next = { q.setSender sender (.returned true) with worker := q.awake } := by
  rw [step] at taken
  cases phase : q.senders sender <;> rw [phase] at taken <;> cases taken
  rfl

theorem write_taken (q next : LocalSdfitsQueue) (taken : q.step .write = some next) :
    ∃ job, q.worker = .writing job ∧ next = { q with worker := .checking, handed := q.handed ++ [job] } := by
  rw [step] at taken
  cases phase : q.worker <;> rw [phase] at taken <;> cases taken
  exact ⟨_, rfl, rfl⟩

theorem safe_step (q next : LocalSdfitsQueue) (action : Action) (safe : QueueSafe q) (taken : q.step action = some next) :
    QueueSafe next := by
  cases action with
  | enqueue sender call =>
      obtain ⟨quiet, rfl⟩ := enqueue_taken q next sender call taken
      exact safe_enqueue q sender call safe quiet
  | lock sender =>
      obtain ⟨call, job, phase, fits, rfl⟩ := lock_taken q next sender taken
      exact safe_push q sender call job safe phase fits
  | notify sender =>
      rw [notify_taken q next sender taken]
      exact safe_notify q sender safe
  | work =>
      obtain ⟨checking, same⟩ := Option.ite_none_right_eq_some.mp taken
      rw [← Option.some.inj same]
      exact safe_pop q safe checking
  | wake =>
      obtain ⟨asleep, same⟩ := Option.ite_none_right_eq_some.mp taken
      rw [← Option.some.inj same]
      exact safe_wake q safe asleep
  | write =>
      obtain ⟨job, writing, rfl⟩ := write_taken q next taken
      exact safe_write q job safe writing
  | stop =>
      obtain ⟨called, same⟩ := Option.ite_none_right_eq_some.mp taken
      obtain ⟨on, stopped⟩ := safe_stop q safe called
      rw [if_pos on] at same
      rw [← Option.some.inj same]
      exact stopped
  | notifyAll =>
      obtain ⟨called, same⟩ := Option.ite_none_right_eq_some.mp taken
      rw [← Option.some.inj same]
      exact safe_notify_all q safe called
  | join =>
      obtain ⟨⟨joining, ended⟩, same⟩ := Option.ite_none_right_eq_some.mp taken
      rw [← Option.some.inj same]
      exact safe_join q safe joining ended
  | disable =>
      obtain ⟨joined, same⟩ := Option.ite_none_right_eq_some.mp taken
      rw [← Option.some.inj same]
      exact safe_disable q safe joined

theorem safe_run (first last : LocalSdfitsQueue) (actions : List Action) (safe : QueueSafe first)
    (run : actions.foldlM step first = some last) : QueueSafe last := by
  induction actions generalizing first with
  | nil =>
      cases run
      exact safe
  | cons action rest ih =>
      obtain ⟨next, taken, later⟩ := Option.bind_eq_some_iff.mp run
      exact ih next (safe_step first next action safe taken) later

-- A call that returns false, at its checks or in the critical section.
theorem refused_unchanged (q next : LocalSdfitsQueue) (action : Action) (sender : Nat)
    (own : (∃ call, action = .enqueue sender call) ∨ action = .lock sender) (taken : q.step action = some next)
    (refused : next.senders sender = .returned false) : next.queue = q.queue ∧ next.queuedBytes = q.queuedBytes := by
  rcases own with ⟨call, rfl⟩ | rfl
  · obtain ⟨_, rfl⟩ := enqueue_taken q next sender call taken
    rw [enqueue]
    by_cases off : q.enabled = false
    · rw [if_pos off]
      exact ⟨rfl, rfl⟩
    · rw [if_neg off]
      cases call.job <;> exact ⟨rfl, rfl⟩
  · obtain ⟨call, job, _, _, rfl⟩ := lock_taken q next sender taken
    rw [push] at refused ⊢
    by_cases refuses : q.stopping = true ∨ q.maxQueueBytes < (q.queuedBytes + call.payloadBytes) % 2 ^ 64
    · rw [if_pos refuses]
      exact ⟨rfl, rfl⟩
    · rw [if_neg refuses] at refused
      have notifying : SenderPhase.notifying = .returned false := (Function.update_self ..).symm.trans refused
      cases notifying

-- From the notify_all of shutdown on, the worker and shutdown go on to the end
-- by themselves: the worker is not left asleep, and it empties the queue.
inductive Finishing : Action → Prop
  | work : Finishing .work
  | write : Finishing .write
  | join : Finishing .join
  | disable : Finishing .disable

def FinishesFrom (q : LocalSdfitsQueue) : Prop :=
  ∃ (actions : List Action) (last : LocalSdfitsQueue), (∀ action ∈ actions, Finishing action) ∧
    actions.foldlM step q = some last ∧ last.shutdown = .returned

theorem finishes_step (q next : LocalSdfitsQueue) (action : Action) (finishing : Finishing action)
    (taken : q.step action = some next) (further : FinishesFrom next) : FinishesFrom q := by
  obtain ⟨actions, last, all, run, returned⟩ := further
  refine ⟨action :: actions, last, ?_, ?_, returned⟩
  · intro other member
    rcases List.mem_cons.mp member with rfl | later
    · exact finishing
    · exact all other later
  · rw [List.foldlM_cons, taken]
    exact run

theorem finishes_finished (q : LocalSdfitsQueue) (joining : q.shutdown = .joining) (ended : q.worker = .finished) : FinishesFrom q := by
  have joined : q.step .join = some { q with shutdown := .joined } := if_pos ⟨joining, ended⟩
  refine finishes_step q _ .join .join joined ⟨[.disable], _, ?_, rfl, rfl⟩
  intro action member
  rw [List.mem_singleton.mp member]
  exact .disable

theorem finishes_checking (jobs : List SdfitsJob) (q : LocalSdfitsQueue) (content : q.queue = jobs) (stopped : q.stopping = true)
    (joining : q.shutdown = .joining) (checking : q.worker = .checking) : FinishesFrom q := by
  induction jobs generalizing q with
  | nil =>
      have popped : q.step .work = some q.pop := if_pos checking
      rw [pop_exit q content stopped] at popped
      exact finishes_step q _ .work .work popped (finishes_finished _ joining rfl)
  | cons job rest ih =>
      have popped : q.step .work = some q.pop := if_pos checking
      rw [pop_job q job rest content] at popped
      refine finishes_step q _ .work .work popped ?_
      refine finishes_step _ { q with worker := .checking, queue := rest, queuedBytes := sub64 q.queuedBytes job.bytes, handed := q.handed ++ [job] }
        .write .write rfl ?_
      exact ih _ rfl stopped joining rfl

theorem shutdown_finishes (q : LocalSdfitsQueue) (safe : QueueSafe q) (joining : q.shutdown = .joining) : FinishesFrom q := by
  have stopped : q.stopping = true := safe.stopping (by rw [joining]; exact ShutdownPhase.noConfusion)
  cases phase : q.worker with
  | checking => exact finishes_checking q.queue q rfl stopped joining phase
  | finished => exact finishes_finished q joining phase
  | waiting =>
      have notifying := safe.asleep phase stopped
      rw [joining] at notifying
      cases notifying
  | writing job =>
      have written : q.step .write = some { q with worker := .checking, handed := q.handed ++ [job] } := by
        rw [step, phase]
      exact finishes_step q _ .write .write written (finishes_checking q.queue _ rfl stopped joining rfl)

structure QueueContract (q : LocalSdfitsQueue) : Prop where
  accounting : q.queuedBytes = totalBytes q.queue
  bounded : q.queuedBytes ≤ q.maxQueueBytes
  order : q.accepted.map EnqueueCall.job = (q.handed ++ (q.inHand ++ q.queue)).map some
  drained : q.shutdown = .returned → q.accepted.map EnqueueCall.job = q.handed.map some
  notified : q.worker = .waiting → q.queue = [] ∨ ∃ sender, q.senders sender = .notifying

theorem safe_contract (q : LocalSdfitsQueue) (safe : QueueSafe q) : QueueContract q := by
  refine ⟨safe.accounting, safe.accounting ▸ safe.bounded, safe.order, fun returned => ?_, safe.notified⟩
  have ended := safe.joined (Or.inr returned)
  have order := safe.order
  rw [inHand, ended, (safe.finished ended).1, List.append_nil, List.append_nil] at order
  exact order

-- Every interleaving of the senders, the worker and one shutdown.
theorem local_sdfits_queue (outputFolder : String) (maxQueueBytes : Nat) (createDirectories : Except String Unit)
    (first last : LocalSdfitsQueue) (configured : configure outputFolder maxQueueBytes createDirectories = .ok first)
    (actions : List Action) (run : actions.foldlM step first = some last) :
    QueueContract last ∧
      (∀ (next : LocalSdfitsQueue) (action : Action) (sender : Nat),
        ((∃ call, action = .enqueue sender call) ∨ action = .lock sender) → last.step action = some next →
          next.senders sender = .returned false → next.queue = last.queue ∧ next.queuedBytes = last.queuedBytes) ∧
      (last.shutdown = .joining → FinishesFrom last) := by
  have safe := safe_run first last actions (safe_configure outputFolder maxQueueBytes createDirectories first configured) run
  exact ⟨safe_contract last safe, refused_unchanged last, shutdown_finishes last safe⟩

def sampleCall : EnqueueCall := ⟨idleHeader, some [1, 2], 8, fun _ memory => Option.some.inj memory ▸ Nat.le_refl 8⟩

def sampleActions : List Action :=
  [.enqueue 0 sampleCall, .work, .enqueue 1 sampleCall, .lock 0, .stop, .notify 0, .lock 1, .notifyAll, .work, .write, .work, .join,
    .disable]

theorem local_sdfits_queue_sample : ∃ first last, configure "/data" 8 (.ok ()) = .ok first ∧
    sampleActions.foldlM step first = some last ∧ QueueContract last ∧ last.shutdown = .returned := by
  refine ⟨_, _, rfl, rfl, (local_sdfits_queue "/data" 8 (.ok ()) _ _ rfl sampleActions rfl).1, rfl⟩

end LocalSdfitsQueue

end SpectralLine
