import SpectralLine.CapturePort
import SpectralLine.Batching

set_option autoImplicit false

namespace SpectralLine

attribute [local instance] eight_words

-- The same packet as the network card hands it to recv2mem.
def Datagram.frame (d : Datagram) : List Byte := d.lower ++ d.payload

def Datagram.ToPort (port : BitVec 16) (d : Datagram) : Prop :=
  d.lower.length = vdifHeaderOffset ∧ d.lower.getD (udpHeaderOffset + 2) 0 ++ d.lower.getD (udpHeaderOffset + 3) 0 = port

def Datagram.packetId (d : Datagram) : Nat := d.header.packetId VDIF.framesPerSecond

theorem lower_get (lower payload : List Byte) (i : Nat) (inside : i < lower.length) : (lower ++ payload).getD i 0 = lower.getD i 0 := by
  rw [List.getD_eq_getElem?_getD, List.getD_eq_getElem?_getD, List.getElem?_append_left inside]

theorem payload_get (lower payload : List Byte) (offset i : Nat) (size : lower.length = offset) :
    (lower ++ payload).getD (offset + i) 0 = payload.getD i 0 := by
  rw [List.getD_eq_getElem?_getD, List.getD_eq_getElem?_getD, ← size, List.getElem?_append_right (Nat.le_add_right _ _),
    Nat.add_sub_cancel_left]

-- Checker and receiver read the same packet id.
theorem frame_packet_id (d : Datagram) (lower : d.lower.length = vdifHeaderOffset) (size : d.frame.length = expectedPktLen) :
    (⟨d.frame, size⟩ : Frame).packetId = d.packetId := by
  have words : ∀ i : Fin 8, (⟨d.frame, size⟩ : Frame).vdif.getWord i = unpackWords d.payload i := by
    intro i
    simp only [VDIF.getWord, Frame.vdif, Vector.getElem_ofFn, Datagram.frame, payload_get d.lower d.payload vdifHeaderOffset _ lower,
      unpackWords]
  rw [Frame.packetId, ← VDIF.read_metadata_packet_id _ false, VDIF.Metadata.packetId, VDIF.readMetadata]
  simp only [words]
  rfl

section

variable (cfg : StreamConfig)

theorem addressed_datagram (d : Datagram) (toPort : d.ToPort cfg.destPort) (size : d.payload.length = 8224) :
    ∃ f : Frame, addressed cfg d.frame = some f ∧ f.data = d.frame ∧ f.packetId = d.packetId := by
  have whole : d.frame.length = expectedPktLen := by
    rw [Datagram.frame, List.length_append, toPort.1, size]
    rfl
  have port : (⟨d.frame, whole⟩ : Frame).udpDstPort = cfg.destPort := by
    have inside : ∀ i < 42, i < d.lower.length := fun i below => by rw [toPort.1]; exact below
    rw [Frame.udpDstPort, ← toPort.2]
    simp only [Datagram.frame]
    rw [lower_get d.lower d.payload _ (inside _ (by decide)), lower_get d.lower d.payload _ (inside _ (by decide))]
  exact ⟨⟨d.frame, whole⟩, by rw [addressed, dif_pos whole, if_pos port], rfl, frame_packet_id d toPort.1 whole⟩

theorem unaddressed_datagram (d : Datagram) (toPort : d.ToPort cfg.destPort) (size : d.payload.length ≠ 8224) :
    addressed cfg d.frame = none := by
  apply dif_neg
  rw [Datagram.frame, List.length_append, toPort.1]
  change ¬ 42 + d.payload.length = 8266
  omega

def kept (datagrams : List Datagram) : List Frame := accepted cfg (datagrams.map Datagram.frame)

theorem kept_snoc (past : List Datagram) (d : Datagram) :
    kept cfg (past ++ [d]) =
      match addressed cfg d.frame with
      | none => kept cfg past
      | some f => accept cfg (kept cfg past) f := by
  rw [kept, List.map_append]
  exact accepted_snoc cfg (past.map Datagram.frame) d.frame

-- The receiver's first and last packet against the checker's books: neither
-- the newest id nor the checker's last is further on than the books allow.
structure WithinBooks (stored : List Frame) (books : PortCapture) (first last : Frame) : Prop where
  head : stored.head? = some first
  newest : stored.getLast? = some last
  below : ∀ f ∈ stored, f.packetId ≤ last.packetId
  reached : last.packetId + 1 ≤ first.packetId + stored.length + (books.missing + books.badLength)
  previous : ∃ id, books.previousPacketId = some id ∧ id + 1 ≤ first.packetId + stored.length + (books.missing + books.badLength)

theorem within_books_start (f : Frame) (books : PortCapture) (previous : books.previousPacketId = some f.packetId) :
    WithinBooks [f] books f f := by
  refine ⟨rfl, rfl, fun other member => ?_, ?_, f.packetId, previous, ?_⟩
  · rw [List.mem_singleton.mp member]
  · rw [List.length_singleton]
    omega
  · rw [List.length_singleton]
    omega

theorem within_books_later (stored : List Frame) (books next : PortCapture) (first last : Frame) (within : WithinBooks stored books first last)
    (id : Nat) (previous : next.previousPacketId = some id) (grown : books.missing + books.badLength ≤ next.missing + next.badLength)
    (known : id + 1 ≤ first.packetId + stored.length + (next.missing + next.badLength)) : WithinBooks stored next first last := by
  have reached := within.reached
  exact ⟨within.head, within.newest, within.below, by omega, id, previous, known⟩

theorem within_books_stored (stored : List Frame) (books next : PortCapture) (first last f : Frame)
    (within : WithinBooks stored books first last) (ahead : ∀ g ∈ stored, g.packetId < f.packetId)
    (previous : next.previousPacketId = some f.packetId)
    (known : f.packetId ≤ first.packetId + stored.length + (next.missing + next.badLength)) : WithinBooks (stored ++ [f]) next first f := by
  have size : (stored ++ [f]).length = stored.length + 1 := by simp
  refine ⟨?_, List.getLast?_concat .., fun g member => ?_, by omega, f.packetId, previous, by omega⟩
  · rw [List.head?_append, within.head]
    rfl
  · rcases List.mem_append.mp member with old | new
    · exact Nat.le_of_lt (ahead g old)
    · rw [List.mem_singleton.mp new]

variable (args : CheckerArgs) (rate : args.framesPerSecond = VDIF.framesPerSecond) (bytes : args.packetBytes = 8224)

include rate bytes

-- Nothing stored yet, or the books cover what is.
def Bounded (past : List Datagram) : Prop :=
  kept cfg past = [] ∨ ∃ first last, WithinBooks (kept cfg past) (PortCapture.capture args past) first last

theorem bounded_step (past : List Datagram) (d : Datagram) (toPort : d.ToPort cfg.destPort) (bounded : Bounded cfg args past) :
    Bounded cfg args (past ++ [d]) := by
  have spec := kept_snoc cfg past d
  rw [Bounded, PortCapture.capture_snoc]
  by_cases short : d.payload.length < VDIF.headerSize
  · have wrong : d.payload.length ≠ 8224 := fun same => absurd short (by rw [same]; decide)
    obtain ⟨reports, taken⟩ := PortCapture.capture_short args (PortCapture.capture args past) d short
    rw [unaddressed_datagram cfg d toPort wrong] at spec
    rw [spec, taken]
    refine bounded.imp_right ?_
    rintro ⟨first, last, within⟩
    obtain ⟨id, previous, known⟩ := within.previous
    exact ⟨first, last, within_books_later _ _ _ first last within id previous (by simp only; omega) (by simp only; omega)⟩
  · obtain ⟨reports, taken⟩ := PortCapture.capture_parsed args (PortCapture.capture args past) d (by omega)
    rw [rate] at taken
    by_cases size : d.payload.length = 8224
    · obtain ⟨f, own, _, id⟩ := addressed_datagram cfg d toPort size
      rw [own] at spec
      simp only [accept] at spec
      by_cases accepted : accepts cfg (kept cfg past) f
      · rw [if_pos accepted] at spec
        rw [spec, taken]
        rcases bounded with none_ | ⟨first, last, within⟩
        · rw [none_, List.nil_append]
          exact .inr ⟨f, f, within_books_start f _ (by rw [id]; rfl)⟩
        · have ahead : ∀ g ∈ kept cfg past, g.packetId < f.packetId := by
            rcases accepted with ⟨empty, _⟩ | ⟨_, ahead⟩
            · rw [empty]
              exact fun g member => absurd member List.not_mem_nil
            · exact ahead
          obtain ⟨last_, previous, known⟩ := within.previous
          refine .inr ⟨first, f, within_books_stored _ _ _ first last f within ahead (by rw [id]; rfl) ?_⟩
          simp only [previous, PortCapture.gap]
          rw [id, Datagram.packetId]
          omega
      · rw [if_neg accepted] at spec
        rw [spec, taken]
        refine bounded.imp_right ?_
        rintro ⟨first, last, within⟩
        have begun : kept cfg past ≠ [] := fun empty => by
          have head := within.head
          rw [empty] at head
          cases head
        have behind : f.packetId ≤ last.packetId := by
          by_contra ahead
          exact accepted (.inr ⟨begun, fun g member => Nat.lt_of_le_of_lt (within.below g member) (Nat.lt_of_not_le ahead)⟩)
        have reached := within.reached
        refine ⟨first, last, within_books_later _ _ _ first last within f.packetId (by rw [id]; rfl) ?_ ?_⟩
        · simp only
          omega
        · simp only
          omega
    · have wrong : PortCapture.lengthErrors args d = 1 := if_pos (by rw [bytes]; exact size)
      rw [unaddressed_datagram cfg d toPort size] at spec
      rw [spec, taken, wrong]
      refine bounded.imp_right ?_
      rintro ⟨first, last, within⟩
      obtain ⟨id, previous, known⟩ := within.previous
      refine ⟨first, last, within_books_later _ _ _ first last within d.packetId rfl ?_ ?_⟩
      · simp only
        omega
      · simp only [previous, PortCapture.gap]
        rw [Datagram.packetId]
        omega

theorem run_bounded (datagrams : List Datagram) (toPort : ∀ d ∈ datagrams, d.ToPort cfg.destPort) : Bounded cfg args datagrams := by
  induction datagrams using List.reverseRecOn with
  | nil => exact .inl rfl
  | append_singleton past d ih =>
      exact bounded_step cfg args rate bytes past d (toPort d (List.mem_append_right _ (List.mem_singleton.mpr rfl)))
        (ih fun other member => toPort other (List.mem_append_left _ member))

omit rate bytes in
-- What the receiver lost is what the checker misses.
theorem lost_within (events : List (RecvEvent cfg)) (datagrams : List Datagram)
    (arrive : arrivals cfg events = datagrams.map Datagram.frame) (st : RecvState cfg) (run : recv2mem cfg events = .ok st) :
    st.stored = kept cfg datagrams ∧
    (kept cfg datagrams = [] → st.totalLostnmber = 0) ∧
    ∀ first last, (kept cfg datagrams).head? = some first → (kept cfg datagrams).getLast? = some last →
      (∀ f ∈ kept cfg datagrams, f.packetId ≤ last.packetId) →
      first.packetId + (kept cfg datagrams).length + st.totalLostnmber = last.packetId + 1 := by
  obtain ⟨stored, phase⟩ := recv_run_inv cfg events st run
  rw [arrive, ← kept] at stored
  refine ⟨stored, fun empty => ?_, fun first last head newest below => ?_⟩
  · rcases phase with idle | ⟨origin, running⟩
    · exact idle.lost
    · exact absurd (stored.trans empty) (running_nonempty cfg st origin running)
  · rw [← stored] at head newest below ⊢
    rcases phase with idle | ⟨origin, running⟩
    · rw [idle.stored] at head
      cases head
    · obtain rfl : origin = first := Option.some.inj (running.head.symm.trans head)
      have balance := running.balance
      obtain ⟨f, member, next, _⟩ := running.newest
      have listed : last ∈ st.stored := List.mem_of_getLast? newest
      have bounded := running.bounded last listed
      have reaches := below f member
      omega

-- With nothing out of order and no odd length, the books are exact.
structure OnBooks (stored : List Frame) (books : PortCapture) (first last : Frame) : Prop where
  head : stored.head? = some first
  newest : stored.getLast? = some last
  below : ∀ f ∈ stored, f.packetId ≤ last.packetId
  previous : books.previousPacketId = some last.packetId
  reached : last.packetId + 1 = first.packetId + stored.length + books.missing

omit bytes in
theorem on_books_step (past : List Datagram) (d : Datagram) (toPort : d.ToPort cfg.destPort) (first last : Frame)
    (books : OnBooks (kept cfg past) (PortCapture.capture args past) first last) (size : d.payload.length = 8224)
    (ordered : PortCapture.fallsBack (PortCapture.capture args past).previousPacketId d.packetId = 0) :
    ∃ newest, OnBooks (kept cfg (past ++ [d])) (PortCapture.capture args (past ++ [d])) first newest := by
  have enough : VDIF.headerSize ≤ d.payload.length := by rw [size]; decide
  obtain ⟨reports, taken⟩ := PortCapture.capture_parsed args (PortCapture.capture args past) d enough
  obtain ⟨f, own, _, id⟩ := addressed_datagram cfg d toPort size
  have spec := kept_snoc cfg past d
  rw [own] at spec
  simp only [accept] at spec
  rw [rate] at taken
  rw [books.previous, PortCapture.fallsBack, ite_eq_right_iff] at ordered
  have level : last.packetId ≤ d.packetId := Nat.le_of_not_lt fun back => absurd (ordered back) Nat.one_ne_zero
  have reached := books.reached
  have begun : kept cfg past ≠ [] := fun empty => by
    have head := books.head
    rw [empty] at head
    cases head
  rw [PortCapture.capture_snoc, taken]
  by_cases same : d.packetId = last.packetId
  · have repeated : ¬ accepts cfg (kept cfg past) f := by
      intro accepted
      rcases accepted with ⟨empty, _⟩ | ⟨_, ahead⟩
      · exact begun empty
      · have before := ahead last (List.mem_of_getLast? books.newest)
        omega
    rw [if_neg repeated] at spec
    rw [spec]
    refine ⟨last, books.head, books.newest, books.below, congrArg some same, ?_⟩
    simp only [books.previous, PortCapture.gap]
    rw [← Datagram.packetId]
    omega
  · have ahead : ∀ g ∈ kept cfg past, g.packetId < f.packetId := fun g member => by
      have before := books.below g member
      omega
    have accepted : accepts cfg (kept cfg past) f := .inr ⟨begun, ahead⟩
    rw [if_pos accepted] at spec
    rw [spec]
    refine ⟨f, ?_, List.getLast?_concat .., fun g member => ?_, congrArg some id.symm, ?_⟩
    · rw [List.head?_append, books.head]
      rfl
    · rcases List.mem_append.mp member with old | new
      · exact Nat.le_of_lt (ahead g old)
      · rw [List.mem_singleton.mp new]
    · simp only [books.previous, PortCapture.gap, List.length_append, List.length_singleton]
      rw [← Datagram.packetId]
      omega

theorem on_books_run (datagrams : List Datagram) (toPort : ∀ d ∈ datagrams, d.ToPort cfg.destPort) (opening : Datagram)
    (starts : datagrams.head? = some opening) (aligned : opening.packetId % cfg.batchsize = 0)
    (lengths : (PortCapture.capture args datagrams).badLength = 0) (ordered : (PortCapture.capture args datagrams).reordered = 0) :
    ∃ first last, OnBooks (kept cfg datagrams) (PortCapture.capture args datagrams) first last := by
  induction datagrams using List.reverseRecOn with
  | nil => cases starts
  | append_singleton past d ih =>
      have toThis := toPort d (List.mem_append_right _ (List.mem_singleton.mpr rfl))
      by_cases short : d.payload.length < VDIF.headerSize
      · have wrong : PortCapture.lengthErrors args d = 1 := if_pos fun same => absurd short (by rw [same, bytes]; decide)
        obtain ⟨reports, taken⟩ := PortCapture.capture_short args (PortCapture.capture args past) d short
        rw [PortCapture.capture_snoc, taken, wrong] at lengths
        exact absurd lengths (Nat.succ_ne_zero _)
      · obtain ⟨reports, taken⟩ := PortCapture.capture_parsed args (PortCapture.capture args past) d (by omega)
        rw [rate] at taken
        rw [PortCapture.capture_snoc, taken] at lengths ordered
        simp only [Nat.add_eq_zero_iff] at lengths ordered
        have size : d.payload.length = 8224 := by
          by_contra wrong
          exact absurd lengths.2 (by rw [PortCapture.lengthErrors, if_pos (by rw [bytes]; exact wrong)]; exact Nat.one_ne_zero)
        cases past with
        | nil =>
            obtain rfl : d = opening := Option.some.inj starts
            obtain ⟨f, own, _, id⟩ := addressed_datagram cfg d toThis size
            have spec := kept_snoc cfg [] d
            rw [own] at spec
            simp only [accept] at spec
            have first : accepts cfg (kept cfg []) f := .inl ⟨rfl, by rw [id]; exact aligned⟩
            rw [if_pos first] at spec
            have alone : kept cfg ([] ++ [d]) = [f] := spec.trans rfl
            rw [alone, PortCapture.capture_snoc, taken]
            refine ⟨f, f, rfl, rfl, fun g member => ?_, ?_, ?_⟩
            · rw [List.mem_singleton.mp member]
            · rw [id, Datagram.packetId]
            · have unopened : (PortCapture.capture args []).missing + PortCapture.gap (PortCapture.capture args []).previousPacketId
                  (d.header.packetId VDIF.framesPerSecond) = 0 := rfl
              simp only [unopened, List.length_singleton, Nat.add_zero]
        | cons earlier rest =>
            obtain ⟨first, last, books⟩ := ih (fun other member => toPort other (List.mem_append_left _ member)) starts lengths.1 ordered.1
            obtain ⟨newest, after⟩ := on_books_step cfg args rate _ d toThis first last books size ordered.2
            exact ⟨first, newest, after⟩

-- The stored packets of a seamless stream: from the first batch boundary on,
-- every one.
theorem seamless_kept (datagrams : List Datagram) (toPort : ∀ d ∈ datagrams, d.ToPort cfg.destPort)
    (seamless : PortCapture.Seamless args datagrams) :
    (kept cfg datagrams).map Frame.data =
        (datagrams.dropWhile fun d => decide (d.packetId % cfg.batchsize ≠ 0)).map Datagram.frame ∧
      (kept cfg datagrams).map Frame.packetId =
        (datagrams.dropWhile fun d => decide (d.packetId % cfg.batchsize ≠ 0)).map Datagram.packetId ∧
      ∀ f ∈ kept cfg datagrams, ∀ last, datagrams.getLast? = some last → f.packetId ≤ last.packetId := by
  induction datagrams using List.reverseRecOn with
  | nil => exact ⟨rfl, rfl, fun f member => absurd member List.not_mem_nil⟩
  | append_singleton past d ih =>
      obtain ⟨before, faultless, joint⟩ := (PortCapture.seamless_snoc args past d).mp seamless
      rw [rate] at joint
      obtain ⟨frames, ids, bound⟩ := ih (fun other member => toPort other (List.mem_append_left _ member)) before
      have size : d.payload.length = 8224 := faultless.length.trans bytes
      obtain ⟨f, own, data, id⟩ := addressed_datagram cfg d (toPort d (List.mem_append_right _ (List.mem_singleton.mpr rfl))) size
      have spec := kept_snoc cfg past d
      rw [own] at spec
      simp only [accept] at spec
      have later : ∀ g ∈ kept cfg past, g.packetId < f.packetId := by
        intro g member
        rcases List.eq_nil_or_concat' past with rfl | ⟨front, last, rfl⟩
        · cases member
        · have next : d.packetId = last.packetId + 1 := joint last (List.getLast?_concat ..)
          have level := bound g member last (List.getLast?_concat ..)
          omega
      rw [List.dropWhile_append]
      by_cases empty : (past.dropWhile fun d => decide (d.packetId % cfg.batchsize ≠ 0)).isEmpty = true
      · rw [if_pos empty]
        have unstored : kept cfg past = [] := by
          rw [List.isEmpty_iff.mp empty] at ids
          exact List.map_eq_nil_iff.mp ids
        by_cases aligned : d.packetId % cfg.batchsize = 0
        · have accepted : accepts cfg (kept cfg past) f := .inl ⟨unstored, by rw [id]; exact aligned⟩
          rw [if_pos accepted, unstored, List.nil_append] at spec
          rw [spec, List.dropWhile_cons_of_neg (by simp [aligned])]
          refine ⟨by simp [data], by simp [id], fun g member last found => ?_⟩
          rw [List.getLast?_concat, Option.some.injEq] at found
          rw [List.mem_singleton.mp member, id, found]
        · have refused : ¬ accepts cfg (kept cfg past) f := by
            intro accepted
            rcases accepted with ⟨_, boundary⟩ | ⟨begun, _⟩
            · exact aligned (by rw [← id]; exact boundary)
            · exact begun unstored
          rw [if_neg refused, unstored] at spec
          rw [spec, List.dropWhile_cons_of_pos (by simp [aligned]), List.dropWhile_nil]
          exact ⟨rfl, rfl, fun g member => absurd member List.not_mem_nil⟩
      · rw [if_neg empty]
        have begun : kept cfg past ≠ [] := by
          intro unstored
          rw [unstored] at ids
          exact empty (List.isEmpty_iff.mpr (List.map_eq_nil_iff.mp ids.symm))
        have accepted : accepts cfg (kept cfg past) f := .inr ⟨begun, later⟩
        rw [if_pos accepted] at spec
        rw [spec]
        refine ⟨by simp [frames, data], by simp [ids, id], fun g member last found => ?_⟩
        rw [List.getLast?_concat, Option.some.injEq] at found
        rw [← found]
        rcases List.mem_append.mp member with old | new
        · have before := later g old
          omega
        · rw [List.mem_singleton.mp new, id]

-- Consecutive ids are a range.
omit rate bytes in
theorem chain_range (ids : List Nat) (first : Nat) (chain : ids.IsChain fun id next => next = id + 1) (head : ids.head? = some first) :
    ids = List.range' first ids.length := by
  induction ids generalizing first with
  | nil => rfl
  | cons id rest ih =>
      obtain rfl : id = first := Option.some.inj head
      rw [List.length_cons, List.range'_succ]
      refine congrArg (id :: ·) ?_
      cases rest with
      | nil => rfl
      | cons next others =>
          obtain ⟨follows, tail⟩ := List.isChain_cons_cons.mp chain
          exact ih (id + 1) tail (congrArg some follows)

theorem seamless_valid (events : List (RecvEvent cfg)) (datagrams : List Datagram) (toPort : ∀ d ∈ datagrams, d.ToPort cfg.destPort)
    (arrive : arrivals cfg events = datagrams.map Datagram.frame) (st : RecvState cfg) (run : recv2mem cfg events = .ok st)
    (seamless : PortCapture.Seamless args datagrams) : ∀ batch ∈ st.queued, batch.valid = true := by
  intro batch member
  obtain ⟨stored, phase⟩ := recv_run_inv cfg events st run
  rw [arrive, ← kept] at stored
  obtain ⟨_, ids, _⟩ := seamless_kept cfg args rate bytes datagrams toPort seamless
  rcases phase with idle | ⟨origin, running⟩
  · rw [idle.queued] at member
    cases member
  · have chain : (st.stored.map Frame.packetId).IsChain fun id next => next = id + 1 := by
      rw [stored, ids]
      have whole := seamless.consecutive
      rw [rate] at whole
      exact whole.suffix ((List.dropWhile_suffix _).map _)
    have head : (st.stored.map Frame.packetId).head? = some origin.packetId := by
      rw [List.head?_map, running.head]
      rfl
    have range := chain_range _ _ chain head
    rw [(running.batches.finished batch member).valid]
    intro j below
    obtain ⟨newest, listed, _, last⟩ := running.newest
    have numbers : batch.batchId ∈ st.queued.map PacketBatch.batchId := List.mem_map_of_mem member
    rw [running.batches.queue, List.mem_range'_1] at numbers
    -- From the opening packet on, up to the newest, which is of a later batch.
    have opens : origin.packetId = origin.packetId / cfg.batchsize * cfg.batchsize := by
      have whole := Nat.div_add_mod' origin.packetId cfg.batchsize
      rw [running.aligned, Nat.add_zero] at whole
      exact whole.symm
    have low : origin.packetId ≤ batch.batchId * cfg.batchsize := by
      rw [opens]
      exact Nat.mul_le_mul_right _ numbers.1
    have next : (batch.batchId + 1) * cfg.batchsize ≤ newest.packetId := by
      have later : batch.batchId + 1 ≤ newest.packetId / cfg.batchsize := by omega
      exact Nat.le_trans (Nat.mul_le_mul_right _ later) (Nat.div_mul_le_self _ _)
    have end_ : newest.packetId ∈ st.stored.map Frame.packetId := List.mem_map_of_mem listed
    rw [range, List.mem_range'_1] at end_
    have inside : batch.batchId * cfg.batchsize + j ∈ st.stored.map Frame.packetId := by
      rw [range, List.mem_range'_1]
      rw [Nat.add_mul, Nat.one_mul] at next
      omega
    obtain ⟨f, found, same⟩ := List.mem_map.mp inside
    exact ⟨f, found, same⟩

end

-- What the checker's books say of a port is what recv2mem makes of it: they
-- bound its loss, name it exactly when nothing came out of order, and a port
-- that passes is received without loss in whole batches.
theorem checker_foresees_loss (cfg : StreamConfig) (args : CheckerArgs) (rate : args.framesPerSecond = VDIF.framesPerSecond)
    (bytes : args.packetBytes = 8224) (datagrams : List Datagram) (toPort : ∀ d ∈ datagrams, d.ToPort cfg.destPort)
    (events : List (RecvEvent cfg)) (arrive : arrivals cfg events = datagrams.map Datagram.frame) (st : RecvState cfg)
    (run : recv2mem cfg events = .ok st) :
    st.totalLostnmber ≤ (PortCapture.capture args datagrams).missing + (PortCapture.capture args datagrams).badLength ∧
    ((PortCapture.capture args datagrams).badLength = 0 → (PortCapture.capture args datagrams).reordered = 0 →
      (∃ d, datagrams.head? = some d ∧ d.packetId % cfg.batchsize = 0) →
      st.totalLostnmber = (PortCapture.capture args datagrams).missing) ∧
    ((PortCapture.capture args datagrams).exitCode = 0 →
      st.totalLostnmber = 0 ∧
      st.stored.map Frame.data = (datagrams.dropWhile fun d => decide (d.packetId % cfg.batchsize ≠ 0)).map Datagram.frame ∧
      ∀ batch ∈ st.queued, batch.valid = true) := by
  obtain ⟨stored, silent, lost⟩ := lost_within cfg events datagrams arrive st run
  have covered : st.totalLostnmber ≤ (PortCapture.capture args datagrams).missing + (PortCapture.capture args datagrams).badLength := by
    rcases run_bounded cfg args rate bytes datagrams toPort with empty | ⟨first, last, within⟩
    · rw [silent empty]
      exact Nat.zero_le _
    · have balance := lost first last within.head within.newest within.below
      have reached := within.reached
      omega
  refine ⟨covered, fun lengths ordered ⟨opening, starts, aligned⟩ => ?_, fun passes => ?_⟩
  · obtain ⟨first, last, books⟩ := on_books_run cfg args rate bytes datagrams toPort opening starts aligned lengths ordered
    have balance := lost first last books.head books.newest books.below
    have reached := books.reached
    omega
  · have clean := (PortCapture.exit_clean _).mp passes
    have seamless := (PortCapture.capture_seamless args (by rw [bytes]; decide) datagrams).mp clean
    rw [clean.missing, clean.badLength] at covered
    rw [stored]
    exact ⟨Nat.le_zero.mp covered, (seamless_kept cfg args rate bytes datagrams toPort seamless).1,
      seamless_valid cfg args rate bytes events datagrams toPort arrive st run seamless⟩

def sentDatagram (packetId : Nat) : Datagram :=
  ⟨"('10.17.16.11', 4000)", lowerHeaders 60000,
    ((VDIF.zero.setPacketId packetId).setFrameLength 8224).header.toList ++ List.replicate 8192 0x80⟩

def sentPair : List Datagram := [sentDatagram 0, sentDatagram 16]

theorem checker_foresees_loss_pair : ∃ st, recv2mem sampleStream [.frame (sentDatagram 0).frame, .frame (sentDatagram 16).frame] = .ok st ∧
    st.totalLostnmber = (PortCapture.capture defaultArgs sentPair).missing := by
  obtain ⟨st, run⟩ := recv2mem_total sampleStream (Or.inl rfl) [.frame (sentDatagram 0).frame, .frame (sentDatagram 16).frame]
  refine ⟨st, run, (checker_foresees_loss sampleStream defaultArgs rfl rfl sentPair (fun d member => ?_) _ rfl st run).2.1
    (by decide +kernel) (by decide +kernel) ⟨sentDatagram 0, rfl, by decide +kernel⟩⟩
  rcases List.mem_cons.mp member with rfl | later
  · exact ⟨lower_headers_length 60000, by decide⟩
  · rw [List.mem_singleton.mp later]
    exact ⟨lower_headers_length 60000, by decide⟩

end SpectralLine
