import DeepShield.Td.Reports
import DeepShield.Vmx.Quantum

/-!
# The whole loop

The detector finds a thread harmless, its report goes through the mailbox, the worker puts the
thread on the list of its process, and from the next switch to the thread on its time-stamp
reads no longer fault. `loop_closes` puts the parts together, for every run of `Td/Reports`: the
exit of the WRMSR to IA32_FS_BASE leaves TSD clear exactly for the threads that the worker has
excluded since the entry of their process was created, and it has excluded no thread that root
mode did not report.
-/

namespace DeepShield.Vmx

open DeepShield.Lib DeepShield.Os DeepShield.Rtl DeepShield.Pm DeepShield.Td

section Exit

variable {s : PmState} {contents : UInt64 → List Exclusion} {constraints : Cr4Constraints}
  {vcpu : Vcpu}

/-- What becomes of TSD. -/
theorem fsBase_tsd (hlegal : Enterable constraints vcpu.vmcs.cr4)
    (hreason : vcpu.exitReason = exitReasonMsrWrite) (hecx : ecx vcpu.registers = ia32FsBase)
    (env : ExitEnvironment) (trustLevel : UInt32) :
    ∃ vcpu', hvmpExitHandler deepShieldHandlers
        { env with
          pmGetClientTrustLevel := trustLevel
          cr4Fixed := vmInitializeVmState constraints } vcpu = .ok vcpu' ∧
      (vcpu'.vmcs.cr4.guestCr4 &&& cr4Tsd = 0 ↔
        Td.flagOn trustLevel trustLevelExempted = true) := by
  refine ⟨_, hvmpExitHandler_fsBase _ hreason hecx, ?_⟩
  obtain ⟨hcr4, -⟩ := instrRipAdvance_keeps (hvmHandleMsrWriteFsBase
    { env with
      pmGetClientTrustLevel := trustLevel
      cr4Fixed := vmInitializeVmState constraints } (loadGuestRegisters vcpu))
  obtain ⟨htsd, -⟩ := hlegal.hvmTrimTsdForQuantum (!Td.flagOn trustLevel trustLevelExempted)
  refine (congrArg (fun cr4 : Cr4Vmcs => cr4.guestCr4 &&& cr4Tsd = 0) hcr4).to_iff.trans
    (htsd.trans ?_)
  rw [Bool.not_eq_false']

end Exit

section Loop

variable {ι : Type} {s : ReportRun ι} {poolSize : Nat} {pending : List MailboxRecord}

/-- The worker excluded the thread since the entry of its process was created. -/
def Cleared (s : ReportRun ι) (processId thread : UInt64) : Prop :=
  s.history.state.gProcessTree processId ≠ none ∧
    ∃ record ∈ s.history.since, record.processId = processId ∧ record.thread = some thread ∧
      record.Completed

/-- Root mode reported a false positive that names the thread, and the worker made the call. -/
def ReportedHarmless (s : ReportRun ι) (processId thread : UInt64) : Prop :=
  ∃ call ∈ s.done, ∃ fullId threadId, call.action = .pmExcludeThread fullId threadId ∧
    lowPart fullId = processId ∧ threadOf call.outcome threadId = some thread ∧
    Notice.falsePositive fullId threadId ∈ s.wanted

/-- Who is cleared is on the list of its process. -/
theorem cleared_iff {contents : UInt64 → List Exclusion} (hrec : Recorded s.history contents)
    {processId thread : UInt64} :
    Cleared s processId thread ↔ ∃ e ∈ contents processId, e.entry.thread = thread := by
  constructor
  · intro hcleared
    obtain ⟨hpresent, record, hrecord, hid, hthread, hdone⟩ := hcleared
    obtain ⟨e, he, hfor, -⟩ := hrec.recorded record hrecord hdone (hid ▸ hpresent)
    exact ⟨e, hid ▸ he, Option.some.inj (hfor.symm.trans hthread)⟩
  · intro hlisted
    obtain ⟨e, he, hthread⟩ := hlisted
    obtain ⟨record, hrecord, hid, hfor, -, hdone⟩ := hrec.listed processId e he
    refine ⟨fun hnone => ?_, record, hrecord, hid, hthread ▸ hfor, hdone⟩
    rw [hrec.consistent.absent processId hnone] at he
    exact absurd he List.not_mem_nil

/-- Who is cleared was reported. -/
theorem Cleared.reported (h : ReportInv poolSize s pending) {processId thread : UInt64}
    (hcleared : Cleared s processId thread) : ReportedHarmless s processId thread := by
  obtain ⟨-, record, hrecord, hid, hthread, -⟩ := hcleared
  obtain ⟨call, hcall, fullId, threadId, haction, hlow, hfor⟩ := h.since record hrecord
  refine ⟨call, hcall, fullId, threadId, haction, hlow.symm.trans hid, hfor.symm.trans hthread, ?_⟩
  have hnotice : some (Notice.falsePositive fullId threadId)
      ∈ s.done.map (fun call => call.action.notice) :=
    List.mem_map.mpr ⟨call, hcall, by rw [haction]; rfl⟩
  obtain ⟨notice, hwanted, heq⟩ := List.mem_map.mp (h.carriedOut.inOrder.subset hnotice)
  exact Option.some.inj heq ▸ hwanted

/-- What holds of a switch of threads: TSD is clear after it exactly for a thread that is
cleared, and such a thread was reported. -/
def SwitchesTsd (s : ReportRun ι) : Prop :=
  ∀ (env : ExitEnvironment) (constraints : Cr4Constraints) (vcpu : Vcpu) (currentThread : UInt64),
    Enterable constraints vcpu.vmcs.cr4 → vcpu.exitReason = exitReasonMsrWrite →
    ecx vcpu.registers = ia32FsBase →
    ∃ trustLevel vcpu',
      pmGetClientTrustLevel s.history.state env.processId currentThread = some trustLevel ∧
      hvmpExitHandler deepShieldHandlers
        { env with
          pmGetClientTrustLevel := trustLevel
          cr4Fixed := vmInitializeVmState constraints } vcpu = .ok vcpu' ∧
      (vcpu'.vmcs.cr4.guestCr4 &&& cr4Tsd = 0 ↔ Cleared s env.processId currentThread) ∧
      (Cleared s env.processId currentThread → ReportedHarmless s env.processId currentThread)

/-- **One switch.** -/
theorem switchesTsd (h : ReportInv poolSize s pending) : SwitchesTsd s := by
  intro env constraints vcpu currentThread hlegal hreason hecx
  obtain ⟨contents, hrec⟩ := h.history
  have htrust := hrec.consistent.pmGetClientTrustLevel env.processId currentThread
  obtain ⟨vcpu', hexit, htsd⟩ := fsBase_tsd hlegal hreason hecx env
    (if ∃ e ∈ contents env.processId, e.entry.thread = currentThread then trustLevelMassive
      else trustLevelNone)
  refine ⟨_, vcpu', htrust, hexit, htsd.trans ?_, fun hcleared => hcleared.reported h⟩
  rw [cleared_iff hrec]
  split
  next hlisted => exact iff_of_true rfl hlisted
  next hlisted => exact iff_of_false (by decide) hlisted

/-- **The loop closes**: in every state of every run in which the records that are posted leave
room in the pool, a switch to a thread leaves TSD clear exactly if the worker has excluded the
thread since the entry of its process was created, and then root mode had reported it. -/
theorem loop_closes [DecidableEq ι] (env : PostEnvironment) (heads : ι → TscTable) (mem : Mem)
    (poolBuffer : Nat) (hpool : 1 ≤ poolSize) {ops : List (ReportOp ι)}
    (hroomy : Throughout (reportStep env) Roomy (ReportRun.start heads mem poolBuffer poolSize)
      ops) :
    Always (reportStep env) SwitchesTsd (ReportRun.start heads mem poolBuffer poolSize) ops :=
  report_always (fun _ _ h => switchesTsd h) heads mem poolBuffer hpool hroomy

/-- The thread of a harmless read is excluded, and the process ends. -/
theorem loop_closes_harmlessRead :
    Always (reportStep plainEnvironment) SwitchesTsd
      (ReportRun.start (fun _ => nearlyJudged) (fun _ => 0) 0x1000 (1024 * 256))
      (harmlessRead ++ [.delete 4]) :=
  loop_closes plainEnvironment _ _ _ (by decide) (by decide +kernel)

end Loop

end DeepShield.Vmx
