import DeepShield.Lib.Bytes
import DeepShield.Pm.Creation
import DeepShield.Pm.PoolIrql

/-!
# Enumerating the processes there are

`PmEnumerareProcesses` gets the list of running processes into a buffer, as large as the
kernel asks for, and calls a function for each record in it. The records are linked by
`NextEntryOffset`, which is 0 in the last one.

The loop moves to the next record and then tests the link of the record it has moved to. So
it ends *at* the last record, before it has looked at it, unless it started there.
`enumeratesAll_iff`: the last process is left out, and nothing else goes wrong.
-/

namespace DeepShield.Pm.Enumeration

open DeepShield.Lib DeepShield.Os

variable {σ : Type}

/-! ## Records -/

/-- `SYSTEM_PROCESS_INFORMATION`, as far as it is read. -/
structure SystemProcessInformation where
  nextEntryOffset : Nat
  uniqueProcessId : Nat
  inheritedFromUniqueProcessId : Nat
deriving Repr, DecidableEq

/-- A handle, which has eight bytes. -/
def readHandle (buffer : Mem) (a : Nat) : Nat := read32 buffer a + 2 ^ 32 * read32 buffer (a + 4)

/-- The record at an offset in the buffer. -/
def processInfo (buffer : Mem) (p : Nat) : SystemProcessInformation :=
  ⟨read32 buffer p, readHandle buffer (p + 80), readHandle buffer (p + 88)⟩

/-- Where the fields end that are read. -/
def recordSize : Nat := 96

/-- A process other than the idle and the system process. -/
def isListed (info : SystemProcessInformation) : Bool :=
  info.uniqueProcessId ≠ 0 && info.uniqueProcessId ≠ 4

/-- **A well-formed chain**: from the offset on these are the records, all of them in the
buffer, each linked to the next one, and the last one to none. -/
inductive Chain (buffer : Mem) (size : Nat) : Nat → List Nat → Prop
  | last {p : Nat} (hfits : p + recordSize ≤ size)
      (hlast : (processInfo buffer p).nextEntryOffset = 0) : Chain buffer size p [p]
  | link {p : Nat} {rest : List Nat} (hfits : p + recordSize ≤ size)
      (hlink : (processInfo buffer p).nextEntryOffset ≠ 0)
      (hrest : Chain buffer size (p + (processInfo buffer p).nextEntryOffset) rest) :
      Chain buffer size p (p :: rest)

/-! ## The function -/

/-- `PDS_ENUM_PROCESS_CALLBACK`, with what it reads and writes besides. -/
abbrev EnumProcessCallback (σ : Type) := SystemProcessInformation → σ → NtStatus × σ

/-- What the rounds of the first loop come to: there is no memory, the query fails or
succeeds, or it asks for a buffer of another size and there is another round. -/
inductive QueryRounds
  | noMemory
  | failed (status : NtFailure) (hstatus : status.val ≠ statusInfoLengthMismatch)
  | listed (status : NtStatus) (hstatus : ntSuccess status = true) (buffer : Mem)
  | mismatch (bufferSize : UInt32) (rounds : QueryRounds)

/-- The callback, for a record that is listed: the records it was called for, the status, and
the state. -/
def visit (callback : EnumProcessCallback σ) (buffer : Mem) (p : Nat) (status : NtStatus) (s : σ) :
    List Nat × NtStatus × σ :=
  if isListed (processInfo buffer p) then
    let (status, s) := callback (processInfo buffer p) s
    ([p], status, s)
  else ([], status, s)

/-- The second loop, from a record on. An access outside the buffer gives none, and so does a
loop that is too long. -/
def enumerateLoop (callback : EnumProcessCallback σ) (buffer : Mem) (size : Nat) :
    Nat → Nat → NtStatus → σ → Option (List Nat × NtStatus × σ)
  | 0, _, _, _ => none
  | fuel + 1, p, status, s =>
    if size < p + recordSize then none
    else
      match visit callback buffer p status s with
      | (called, status, s) =>
        -- break
        if isListed (processInfo buffer p) = true ∧ ntSuccess status = false then
          some (called, status, s)
        else
          let next := p + (processInfo buffer p).nextEntryOffset
          if size < next + 4 then none
          else if (processInfo buffer next).nextEntryOffset = 0 then some (called, status, s)
          else do
            let (rest, status, s) ← enumerateLoop callback buffer size fuel next status s
            return (called ++ rest, status, s)

/-- `PmEnumerareProcesses`, with a buffer of this size in the first round. -/
def pmEnumerareProcesses (callback : EnumProcessCallback σ) :
    QueryRounds → UInt32 → σ → Ledger → Option ((List Nat × NtStatus × σ) × Ledger)
  | .noMemory, _, s, ledger => some (([], statusInsufficientResources, s), (ledger.alloc false).2)
  | .failed status _, _, s, ledger =>
    some (([], status.val, s), (ledger.alloc true).2.free ledger.next)
  | .mismatch bufferSize rounds, _, s, ledger =>
    pmEnumerareProcesses callback rounds bufferSize s ((ledger.alloc true).2.free ledger.next)
  | .listed status _ buffer, bufferSize, s, ledger => do
    let size := bufferSize.toNat
    let result ← enumerateLoop callback buffer size size 0 status s
    return (result, (ledger.alloc true).2.free ledger.next)

/-! ## What it is for -/

/-- The records that are listed. -/
def listed (buffer : Mem) (chain : List Nat) : List Nat :=
  chain.filter fun p => isListed (processInfo buffer p)

/-- The callback is called for each of some records, up to the first failure. -/
def notifyAll (callback : EnumProcessCallback σ) (buffer : Mem) :
    List Nat → NtStatus → σ → List Nat × NtStatus × σ
  | [], status, s => ([], status, s)
  | p :: rest, _, s =>
    let (status, s) := callback (processInfo buffer p) s
    if ntSuccess status = false then ([p], status, s)
    else
      let (called, status, s) := notifyAll callback buffer rest status s
      (p :: called, status, s)

/-- It fails for one of them. -/
def SomeFails (callback : EnumProcessCallback σ) (buffer : Mem) : List Nat → σ → Prop
  | [], _ => False
  | p :: rest, s =>
    ntSuccess (callback (processInfo buffer p) s).1 = false ∨
      SomeFails callback buffer rest (callback (processInfo buffer p) s).2

/-- `BufferSize` at first. -/
def initialBufferSize : UInt32 := 0x4000

/-- A query that succeeds after some rounds, with a well-formed chain in the last buffer. -/
structure Listing where
  mismatches : List UInt32
  status : NtStatus
  success : ntSuccess status = true
  buffer : Mem
  chain : List Nat
  wellFormed : Chain buffer (mismatches.getLastD initialBufferSize).toNat 0 chain

/-- Its rounds. -/
def Listing.rounds (listing : Listing) : QueryRounds :=
  listing.mismatches.foldr .mismatch (.listed listing.status listing.success listing.buffer)

/-- **Every process is enumerated**: in chain order, once, up to the first failure, whose
status is returned, and every buffer is freed once. -/
def EnumeratesAll (callback : EnumProcessCallback σ) (listing : Listing) (s : σ) : Prop :=
  ∃ ledger, pmEnumerareProcesses callback listing.rounds initialBufferSize s Ledger.empty
      = some (notifyAll callback listing.buffer (listed listing.buffer listing.chain)
          listing.status s, ledger) ∧
    ledger.Settled

/-! ## One pass -/

section Loop

variable {callback : EnumProcessCallback σ} {buffer : Mem} {size p : Nat} {status : NtStatus}
  {s : σ} {rest chain : List Nat}

/-- The records the second loop looks at. -/
def visited {α : Type} : List α → List α
  | [p] => [p]
  | chain => chain.dropLast

/-- **One record** of those that are called for: the callback fails for it, or the others
follow. -/
theorem notifyAll_cons (hstatus : ntSuccess status = true) :
    (isListed (processInfo buffer p) = true ∧
        ntSuccess (visit callback buffer p status s).2.1 = false ∧
        notifyAll callback buffer (listed buffer (p :: rest)) status s
          = visit callback buffer p status s) ∨
      (ntSuccess (visit callback buffer p status s).2.1 = true ∧
        notifyAll callback buffer (listed buffer (p :: rest)) status s
          = ((visit callback buffer p status s).1 ++
              (notifyAll callback buffer (listed buffer rest)
                (visit callback buffer p status s).2.1
                (visit callback buffer p status s).2.2).1,
            (notifyAll callback buffer (listed buffer rest)
                (visit callback buffer p status s).2.1
                (visit callback buffer p status s).2.2).2)) := by
  unfold visit
  cases hlisted : isListed (processInfo buffer p) with
  | false =>
    have hskip : listed buffer (p :: rest) = listed buffer rest := by
      simp [listed, hlisted]
    rw [hskip, if_neg Bool.false_ne_true]
    exact Or.inr ⟨hstatus, rfl⟩
  | true =>
    have hhead : listed buffer (p :: rest) = p :: listed buffer rest := by
      simp [listed, hlisted]
    rw [hhead, if_pos rfl, notifyAll]
    dsimp only
    cases hcall : ntSuccess (callback (processInfo buffer p) s).1 with
    | false => exact Or.inl ⟨rfl, rfl, rfl⟩
    | true => exact Or.inr ⟨rfl, rfl⟩

/-- **One pass**: the record, and then what is left if the next one has a link. -/
theorem enumerateLoop_pass {fuel next : Nat} (hstatus : ntSuccess status = true)
    (hfits : p + recordSize ≤ size) (hnext : p + (processInfo buffer p).nextEntryOffset = next)
    (hnextFits : next + 4 ≤ size)
    (hend : (processInfo buffer next).nextEntryOffset = 0 → rest = [])
    (hmore : (processInfo buffer next).nextEntryOffset ≠ 0 →
      ∀ {status : NtStatus} {s : σ}, ntSuccess status = true →
        enumerateLoop callback buffer size fuel next status s
          = some (notifyAll callback buffer (listed buffer rest) status s)) :
    enumerateLoop callback buffer size (fuel + 1) p status s
      = some (notifyAll callback buffer (listed buffer (p :: rest)) status s) := by
  rw [enumerateLoop, if_neg (Nat.not_lt.mpr hfits)]
  dsimp only
  rcases @notifyAll_cons σ callback buffer p status s rest hstatus with
    ⟨hlisted, hfails, hall⟩ | ⟨hsucceeds, hall⟩
  · rw [if_pos ⟨hlisted, hfails⟩, hall]
  · rw [if_neg fun hk => Bool.false_ne_true (hk.2.symm.trans hsucceeds), hall, hnext,
      if_neg (Nat.not_lt.mpr hnextFits)]
    by_cases hlink : (processInfo buffer next).nextEntryOffset = 0
    · rw [if_pos hlink, hend hlink]
      dsimp only [listed, List.filter_nil, notifyAll]
      rw [List.append_nil]
    · rw [if_neg hlink, hmore hlink hsucceeds]
      rfl

/-- The first record of a chain is in the buffer. -/
theorem Chain.fits (h : Chain buffer size p chain) : p + recordSize ≤ size := by
  cases h with
  | last hfits _ => exact hfits
  | link hfits _ _ => exact hfits

/-- **The second loop** calls for the records it looks at. -/
theorem enumerateLoop_chain (h : Chain buffer size p chain) :
    ∀ {fuel : Nat} {status : NtStatus} {s : σ}, chain.length ≤ fuel → ntSuccess status = true →
      enumerateLoop callback buffer size fuel p status s
        = some (notifyAll callback buffer (listed buffer (visited chain)) status s) := by
  -- each record of a chain takes one pass
  have hfour : ∀ {q : Nat}, q + recordSize ≤ size → q + 4 ≤ size := by
    intro q hq
    exact Nat.le_trans (Nat.add_le_add_left (by decide) q) hq
  induction h with
  | @last p hfits hlast =>
    intro fuel status s hfuel hstatus
    obtain ⟨fuel, rfl⟩ := Nat.exists_eq_succ_of_ne_zero (Nat.ne_of_gt hfuel)
    have hstay : p + (processInfo buffer p).nextEntryOffset = p := by rw [hlast, Nat.add_zero]
    exact enumerateLoop_pass hstatus hfits hstay (hfour hfits) (fun _ => rfl)
      (fun hlink => absurd hlast hlink)
  | @link p rest hfits hlink hrest ih =>
    intro fuel status s hfuel hstatus
    obtain ⟨fuel, rfl⟩ := Nat.exists_eq_succ_of_ne_zero
      (Nat.ne_of_gt (Nat.lt_of_lt_of_le (Nat.succ_pos _) hfuel))
    have hlength : rest.length ≤ fuel := Nat.le_of_succ_le_succ hfuel
    have hnextFits := hfour hrest.fits
    cases hrest with
    | last _ hlast =>
      -- the loop ends at the last record
      exact enumerateLoop_pass hstatus hfits rfl hnextFits (fun _ => rfl)
        (fun hlink => absurd hlast hlink)
    | @link _ rest _ hnextLink hrest' =>
      have hvisited : visited (p :: (p + (processInfo buffer p).nextEntryOffset) :: rest)
          = p :: visited ((p + (processInfo buffer p).nextEntryOffset) :: rest) := by
        cases hrest' with
        | last _ _ => rfl
        | link _ _ _ => rfl
      rw [hvisited]
      exact enumerateLoop_pass hstatus hfits rfl hnextFits (fun hend => absurd hend hnextLink)
        (fun _ {status s} hsucc => ih hlength hsucc)

/-- A chain is no longer than the buffer. -/
theorem Chain.length_le (h : Chain buffer size p chain) : p + chain.length ≤ size := by
  induction h with
  | @last p hfits _ => exact Nat.le_trans (Nat.add_le_add_left (Nat.succ_pos 95) p) hfits
  | @link p rest _ hlink _ ih =>
    rw [List.length_cons]
    omega

end Loop

/-! ## The rounds -/

section Rounds

variable {callback : EnumProcessCallback σ} {buffer : Mem} {s : σ} {ledger : Ledger}

/-- A buffer that is freed after the round. -/
theorem owns_round (h : ledger.Owns 0) : ((ledger.alloc true).2.free ledger.next).Owns 0 :=
  h.alloc.free

/-- **No round keeps its buffer**, whatever the kernel answers. -/
theorem owns_pmEnumerareProcesses :
    ∀ {rounds : QueryRounds} {bufferSize : UInt32} {ledger : Ledger}
      {result : (List Nat × NtStatus × σ) × Ledger}, ledger.Owns 0 →
      pmEnumerareProcesses callback rounds bufferSize s ledger = some result → result.2.Owns 0 := by
  intro rounds
  induction rounds with
  | noMemory =>
    intro bufferSize ledger result h hresult
    obtain rfl := Option.some.inj hresult
    exact h
  | failed status hstatus =>
    intro bufferSize ledger result h hresult
    obtain rfl := Option.some.inj hresult
    exact owns_round h
  | listed status hstatus buffer =>
    intro bufferSize ledger result h hresult
    rw [pmEnumerareProcesses] at hresult
    obtain ⟨called, -, heq⟩ := Option.bind_eq_some_iff.mp hresult
    obtain rfl := Option.some.inj heq
    exact owns_round h
  | mismatch size rounds ih =>
    intro bufferSize ledger result h hresult
    rw [pmEnumerareProcesses] at hresult
    exact ih (owns_round h) hresult

/-- After some rounds, what the second loop gives is the result. -/
theorem pmEnumerareProcesses_listed {status : NtStatus} (hstatus : ntSuccess status = true)
    {result : List Nat × NtStatus × σ} :
    ∀ {mismatches : List UInt32} {bufferSize : UInt32} {ledger : Ledger},
      enumerateLoop callback buffer (mismatches.getLastD bufferSize).toNat
          (mismatches.getLastD bufferSize).toNat 0 status s = some result →
      ∃ ledger', pmEnumerareProcesses callback
          (mismatches.foldr .mismatch (.listed status hstatus buffer)) bufferSize s ledger
        = some (result, ledger') := by
  intro mismatches
  induction mismatches with
  | nil =>
    intro bufferSize ledger hloop
    rw [List.getLastD_nil] at hloop
    rw [List.foldr_nil, pmEnumerareProcesses]
    rw [hloop]
    exact ⟨_, rfl⟩
  | cons size mismatches ih =>
    intro bufferSize ledger hloop
    rw [List.getLastD_cons] at hloop
    rw [List.foldr_cons, pmEnumerareProcesses]
    exact ih hloop

/-- **What it does**: it ends, frees its buffers, and calls for the records it looks at. -/
theorem pmEnumerareProcesses_visited (callback : EnumProcessCallback σ) (listing : Listing)
    (s : σ) :
    ∃ ledger, pmEnumerareProcesses callback listing.rounds initialBufferSize s Ledger.empty
        = some (notifyAll callback listing.buffer
            (listed listing.buffer (visited listing.chain)) listing.status s, ledger) ∧
      ledger.Settled := by
  have hlength := listing.wellFormed.length_le
  rw [Nat.zero_add] at hlength
  have hloop := @enumerateLoop_chain σ callback _ _ _ _ listing.wellFormed _ listing.status s
    hlength listing.success
  obtain ⟨ledger, hresult⟩ := @pmEnumerareProcesses_listed σ callback listing.buffer s _
    listing.success _ _ initialBufferSize Ledger.empty hloop
  exact ⟨ledger, hresult, (owns_pmEnumerareProcesses Ledger.owns_empty hresult).settled⟩

/-- All are enumerated if those that are looked at come to the same. -/
theorem enumeratesAll_iff_visited (listing : Listing) :
    EnumeratesAll callback listing s ↔
      notifyAll callback listing.buffer (listed listing.buffer (visited listing.chain))
          listing.status s
        = notifyAll callback listing.buffer (listed listing.buffer listing.chain)
          listing.status s := by
  obtain ⟨ledger, hresult, hsettled⟩ := pmEnumerareProcesses_visited callback listing s
  constructor
  · rintro ⟨ledger', hall, -⟩
    exact congrArg Prod.fst (Option.some.inj (hresult.symm.trans hall))
  · intro heq
    rw [heq] at hresult
    exact ⟨ledger, hresult, hsettled⟩

end Rounds

/-! ## The last record -/

section Last

variable {callback : EnumProcessCallback σ} {buffer : Mem} {status : NtStatus} {s : σ}
  {records more : List Nat}

/-- After a failure nothing is called. -/
theorem notifyAll_append_of_fails (h : SomeFails callback buffer records s) :
    notifyAll callback buffer (records ++ more) status s
      = notifyAll callback buffer records status s := by
  induction records generalizing status s with
  | nil => exact absurd h id
  | cons p records ih =>
    rw [List.cons_append, notifyAll, notifyAll]
    dsimp only
    rcases h with hfails | hrest
    · rw [if_pos hfails, if_pos hfails]
    · rw [ih hrest]

/-- Without one everything is, and the next one is too. -/
theorem notifyAll_of_not_fails (h : ¬ SomeFails callback buffer records s) :
    (notifyAll callback buffer records status s).1 = records ∧
      ∀ p, (notifyAll callback buffer (records ++ [p]) status s).1 = records ++ [p] := by
  induction records generalizing status s with
  | nil =>
    refine ⟨rfl, fun p => ?_⟩
    rw [List.nil_append, notifyAll]
    dsimp only
    split
    next => rfl
    next => rfl
  | cons q records ih =>
    obtain ⟨hsucc, hrest⟩ := not_or.mp h
    obtain ⟨hall, hnext⟩ := ih hrest
    refine ⟨?_, fun p => ?_⟩
    · rw [notifyAll]
      dsimp only
      rw [if_neg hsucc]
      exact congrArg (List.cons q) hall
    · rw [List.cons_append, notifyAll]
      dsimp only
      rw [if_neg hsucc]
      exact congrArg (List.cons q) (hnext p)

/-- **A last record** makes no difference exactly if it is not listed or not reached. -/
theorem notifyAll_concat_iff {p : Nat} :
    notifyAll callback buffer (listed buffer records) status s
        = notifyAll callback buffer (listed buffer (records ++ [p])) status s ↔
      isListed (processInfo buffer p) = false ∨
        SomeFails callback buffer (listed buffer records) s := by
  have happend : listed buffer (records ++ [p]) = listed buffer records ++ listed buffer [p] :=
    List.filter_append ..
  rw [happend]
  cases hlisted : isListed (processInfo buffer p) with
  | false =>
    have hnone : listed buffer [p] = [] := by simp [listed, hlisted]
    rw [hnone, List.append_nil]
    exact iff_of_true rfl (Or.inl rfl)
  | true =>
    have hone : listed buffer [p] = [p] := by simp [listed, hlisted]
    rw [hone, or_iff_right Bool.false_ne_true.symm]
    by_cases hfails : SomeFails callback buffer (listed buffer records) s
    · exact iff_of_true (notifyAll_append_of_fails hfails).symm hfails
    · refine iff_of_false (fun heq => ?_) hfails
      obtain ⟨hall, hnext⟩ := @notifyAll_of_not_fails σ callback buffer status s _ hfails
      have hcalled := congrArg Prod.fst heq
      rw [hall, hnext p] at hcalled
      exact absurd (congrArg List.length hcalled) (by simp)

theorem Chain.ne_nil {size p : Nat} {chain : List Nat} (h : Chain buffer size p chain) :
    chain ≠ [] := by
  cases h with
  | last _ _ => exact List.cons_ne_nil _ _
  | link _ _ _ => exact List.cons_ne_nil _ _

/-- With two records or more, the last one is not looked at. -/
theorem visited_concat {α : Type} {records : List α} (hne : records ≠ []) (p : α) :
    visited (records ++ [p]) = records := by
  obtain ⟨q, records, rfl⟩ := List.exists_cons_of_ne_nil hne
  have hlast : visited (q :: records ++ [p]) = (q :: records ++ [p]).dropLast := by
    cases records with
    | nil => rfl
    | cons _ _ => rfl
  rw [hlast, List.dropLast_concat]

end Last

/-- **Every process is enumerated** exactly if there is one record, or the last one is not
listed, or a callback fails before it. -/
theorem enumeratesAll_iff (callback : EnumProcessCallback σ) (listing : Listing) (s : σ) :
    EnumeratesAll callback listing s ↔
      listing.chain.length = 1 ∨
        isListed (processInfo listing.buffer (listing.chain.getLastD 0)) = false ∨
        SomeFails callback listing.buffer (listed listing.buffer listing.chain.dropLast) s := by
  rw [enumeratesAll_iff_visited]
  rcases List.eq_nil_or_concat listing.chain with hnil | ⟨records, p, hchain⟩
  · exact absurd hnil listing.wellFormed.ne_nil
  · rw [hchain, List.concat_eq_append]
    by_cases hempty : records = []
    · rw [hempty]
      exact iff_of_true rfl (Or.inl rfl)
    · have hlength : (records ++ [p]).length ≠ 1 := by
        rw [List.length_append, List.length_singleton]
        have hpos := List.length_pos_of_ne_nil hempty
        omega
      have hlast : (records ++ [p]).getLastD 0 = p := by
        rw [List.getLastD_eq_getLast?, List.getLast?_concat]
        rfl
      rw [visited_concat hempty, or_iff_right hlength, hlast, List.dropLast_concat]
      exact notifyAll_concat_iff

/-- A buffer with two processes, 8 and 12. -/
def twoProcesses : Mem := write32 (write32 (write32 (fun _ => 0) 0 96) 80 8) 176 12

/-- They are listed in the first round. -/
def twoListed : Listing where
  mismatches := []
  status := statusSuccess
  success := ntSuccess_statusSuccess
  buffer := twoProcesses
  chain := [0, 96]
  wellFormed := by
    refine Chain.link (by decide) (by decide) ?_
    exact Chain.last (by decide) (by decide)

/-- The callback is never called for process 12. -/
theorem not_enumeratesAll_two :
    ¬ EnumeratesAll (fun _ s => (statusSuccess, s)) twoListed () := by
  rw [enumeratesAll_iff_visited]
  decide

/-! ## The driver's callback -/

/-- `SeNotifyProcess`: what it finds is created, and it does not fail. -/
def seNotifyProcess (calls : SystemProcessInformation → Creation.CreationCalls) :
    EnumProcessCallback Creation.CreationState :=
  fun info s =>
    (statusSuccess,
      Creation.dsProcessCreationCallback (calls info) (UInt64.ofNat info.uniqueProcessId) s)

/-- So nothing stops the enumeration. -/
theorem not_someFails_seNotifyProcess
    (calls : SystemProcessInformation → Creation.CreationCalls) {buffer : Mem} :
    ∀ {records : List Nat} {s : Creation.CreationState},
      ¬ SomeFails (seNotifyProcess calls) buffer records s := by
  intro records
  induction records with
  | nil => exact fun h => h
  | cons p records ih =>
    intro s h
    rcases h with hfails | hrest
    · exact Bool.false_ne_true (hfails.symm.trans ntSuccess_statusSuccess)
    · exact ih hrest

theorem visited_map {α β : Type} (f : α → β) : ∀ records : List α,
    (visited records).map f = visited (records.map f)
  | [] => rfl
  | [_] => rfl
  | _ :: _ :: _ => List.map_dropLast

/-- A process id that is listed. -/
def isListedId (processId : Nat) : Bool := processId ≠ 0 && processId ≠ 4

theorem map_listed {buffer : Mem} (chain : List Nat) :
    (listed buffer chain).map (fun p => (processInfo buffer p).uniqueProcessId)
      = (chain.map fun p => (processInfo buffer p).uniqueProcessId).filter isListedId := by
  rw [List.filter_map]
  rfl

theorem map_notified (processes : List (UInt64 × CreationAnswers)) :
    (notified processes).map (fun process => process.1.toNat)
      = ((visited processes).map fun process => process.1.toNat).filter isListedId := by
  have hnotified : notified processes
      = (visited processes).filter fun process => process.1 ≠ 0 ∧ process.1 ≠ 4 :=
    match processes with
    | [] => rfl
    | [_] => rfl
    | _ :: _ :: _ => rfl
  rw [hnotified, List.filter_map]
  apply congrArg
  apply List.filter_congr
  intro process _
  have hzero : process.1 = 0 ↔ process.1.toNat = 0 := UInt64.toNat_inj.symm
  have hfour : process.1 = 4 ↔ process.1.toNat = 4 := UInt64.toNat_inj.symm
  simp [isListedId, hzero, hfour]

/-- The processes that `PoolIrql` notifies are those that are looked at and listed. -/
theorem notified_eq_visited {buffer : Mem} {chain : List Nat}
    {processes : List (UInt64 × CreationAnswers)}
    (hids : chain.map (fun p => (processInfo buffer p).uniqueProcessId)
      = processes.map fun process => process.1.toNat) :
    (listed buffer (visited chain)).map (fun p => (processInfo buffer p).uniqueProcessId)
      = (notified processes).map fun process => process.1.toNat := by
  rw [map_listed, visited_map, hids, ← visited_map, map_notified]

/-- **At the start of the driver** the processes that get an entry, if they can, are those of
`notified`. -/
theorem seNotifyProcess_notified (calls : SystemProcessInformation → Creation.CreationCalls)
    (listing : Listing) (s : Creation.CreationState) {processes : List (UInt64 × CreationAnswers)}
    (hids : listing.chain.map (fun p => (processInfo listing.buffer p).uniqueProcessId)
      = processes.map fun process => process.1.toNat) :
    ∃ called status s' ledger,
      pmEnumerareProcesses (seNotifyProcess calls) listing.rounds initialBufferSize s Ledger.empty
        = some ((called, status, s'), ledger) ∧
      called.map (fun p => (processInfo listing.buffer p).uniqueProcessId)
        = (notified processes).map fun process => process.1.toNat := by
  obtain ⟨ledger, hresult, -⟩ := pmEnumerareProcesses_visited (seNotifyProcess calls) listing s
  refine ⟨_, _, _, ledger, hresult, ?_⟩
  rw [(notifyAll_of_not_fails (not_someFails_seNotifyProcess calls)).1]
  exact notified_eq_visited hids

end DeepShield.Pm.Enumeration
