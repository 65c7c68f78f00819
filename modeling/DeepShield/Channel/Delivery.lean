import DeepShield.Channel.Notifications

/-!
# Every notification is heard as it was sent, and gets its own answer

`Notifications` has the channel, and the service it should be. Here the one simulates the
other, whatever the order of the steps, for senders that were given this channel.

* `BucketsInv` of `Buckets` is about who holds which bucket: the channel moves the map as
  `bucketStep` does, or not at all (`notifierStep_buckets`).
* `RundownInv` is about the closing: once the rundown is released, nobody is inside.
* `ContentsInv` is about the memory: what a bucket holds is what its holder expects of it
  (`Notifier.Expects`), exactly one of HighEvent, helper and LowEvent carries the turn while
  the holder waits, and a bucket that nobody holds is quiet until it is told to terminate.
-/

namespace DeepShield.Channel

open DeepShield.Lib DeepShield.Os DeepShield.Td

/-! ## Who holds which bucket -/

/-- The bucket a sender has. -/
def Notifier.bucket : Notifier → Option Nat
  | idle | called _ | tested _ | scanning _ | found _ _ | leaving _ _ => none
  | taken _ b | filling _ b _ _ | waiting _ b _ | woken _ b | answered _ b _ => some b

/-- A sender, as `Buckets` has it. -/
def Notifier.bucketSender : Notifier → BucketSender
  | idle | called _ | tested _ => .idle
  | scanning _ => .scanning
  | found _ freeIndex => .found freeIndex
  | taken _ b | filling _ b _ _ | waiting _ b _ | woken _ b | answered _ b _ => .holding b
  | leaving _ none => .insufficientResources
  | leaving _ (some _) => .idle

theorem Notifier.bucketSender_holding {n : Notifier} {b : Nat} :
    n.bucketSender = .holding b ↔ n.bucket = some b := by
  cases n with
  | leaving call action => cases action <;> simp [bucketSender, bucket]
  | _ => simp [bucketSender, bucket]

/-- The map and its users. -/
def Notifying.toBuckets (s : Notifying) : ChannelBuckets where
  bucketsBitMap := s.bucketsBitMap
  senders i := (s.notifiers i).bucketSender
  assertionFailed := s.assertionFailed

section Buckets

variable {s s' : Notifying} {i j b : Nat} {n : Notifier}

theorem toBuckets_goto : (s.goto i n).toBuckets = s.toBuckets.goto i n.bucketSender := by
  unfold Notifying.toBuckets Notifying.goto ChannelBuckets.goto
  congr 1
  funext j
  exact Function.apply_update (fun _ => Notifier.bucketSender) s.notifiers i n j

/-- A sender that does not touch the map. -/
theorem toBuckets_goto_same (h : n.bucketSender = (s.notifiers i).bucketSender) :
    (s.goto i n).toBuckets = s.toBuckets := by
  rw [toBuckets_goto, h]
  unfold ChannelBuckets.goto
  congr 1
  exact Function.update_eq_self i _

/-- **The map moves as in `Buckets`, or stays.** -/
theorem notifierStep_buckets (hstep : notifierStep s i = some s') :
    s'.toBuckets = s.toBuckets ∨ bucketStep s.toBuckets i = some s'.toBuckets := by
  have hsender : s.toBuckets.senders i = (s.notifiers i).bucketSender := rfl
  unfold notifierStep at hstep
  unfold bucketStep
  split at hstep
  next => exact absurd hstep (by simp)
  next call hpc =>
    obtain rfl := Option.some.inj hstep
    refine Or.inl (toBuckets_goto_same ?_)
    rw [hpc]
    split
    next => rfl
    next => rfl
  next call hpc =>
    split at hstep
    next =>
      obtain rfl := Option.some.inj hstep
      exact Or.inl (toBuckets_goto_same (by rw [hpc]; rfl))
    next rundown _ =>
      obtain rfl := Option.some.inj hstep
      right
      rw [hsender, hpc, toBuckets_goto]
      rfl
  next call hpc =>
    right
    have hmap : s.toBuckets.bucketsBitMap = s.bucketsBitMap := rfl
    rw [hsender, hpc]
    cases hfound : rtlFindMostSignificantBit (s.bucketsBitMap.signExtend 64) with
    | none =>
      simp only [hfound] at hstep
      obtain rfl := Option.some.inj hstep
      rw [toBuckets_goto]
      simp only [Notifier.bucketSender, hmap, hfound]
    | some freeIndex =>
      simp only [hfound] at hstep
      obtain rfl := Option.some.inj hstep
      rw [toBuckets_goto]
      simp only [Notifier.bucketSender, hmap, hfound]
  next call freeIndex hpc =>
    obtain rfl := Option.some.inj hstep
    right
    rw [hsender, hpc, toBuckets_goto, apply_ite Notifier.bucketSender]
    rfl
  next call bucket hpc =>
    obtain rfl := Option.some.inj hstep
    exact Or.inl (toBuckets_goto_same (by rw [hpc]; rfl))
  next call bucket uniqueId stores hpc =>
    split at hstep
    next =>
      obtain rfl := Option.some.inj hstep
      exact Or.inl (toBuckets_goto_same (by rw [Notifying.setBucket, hpc]; rfl))
    next =>
      obtain rfl := Option.some.inj hstep
      exact Or.inl (toBuckets_goto_same (by rw [Notifying.setBucket, hpc]; rfl))
  next call bucket uniqueId hpc =>
    dsimp only at hstep
    split at hstep
    next =>
      obtain rfl := Option.some.inj hstep
      exact Or.inl (toBuckets_goto_same (by rw [Notifying.setBucket, hpc]; rfl))
    next => exact absurd hstep (by simp)
  next call bucket hpc =>
    obtain rfl := Option.some.inj hstep
    exact Or.inl (toBuckets_goto_same (by rw [hpc]; rfl))
  next call bucket action hpc =>
    obtain rfl := Option.some.inj hstep
    right
    rw [hsender, hpc, toBuckets_goto]
    rfl
  next call action hpc =>
    obtain rfl := Option.some.inj hstep
    cases action with
    | none =>
      right
      rw [hsender, hpc, toBuckets_goto]
      rfl
    | some action => exact Or.inl (toBuckets_goto_same (by rw [hpc]; rfl))

/-- A bucket is with one sender. -/
theorem BucketsInv.alone (h : BucketsInv s.toBuckets) (hi : (s.notifiers i).bucket = some b) :
    ∀ j, j ≠ i → (s.notifiers j).bucket ≠ some b := by
  intro j hji hj
  exact hji (h.ok.exclusive j i b (Notifier.bucketSender_holding.mpr hj)
    (Notifier.bucketSender_holding.mpr hi))

end Buckets

/-! ## The rundown -/

/-- Between the acquisition of the rundown and its release. -/
def Notifier.inside : Notifier → Option Unit
  | idle | called _ | tested _ => none
  | scanning _ | found _ _ | taken _ _ | filling _ _ _ _ | waiting _ _ _ | woken _ _
  | answered _ _ _ | leaving _ _ => some ()

/-- The rundown was released. -/
def Closure.drained : Closure → Bool
  | exchanged | waiting => false
  | released | completed | filling _ | signalling _ | acknowledging | destroyed => true

theorem Notifier.inside_of_bucket {n : Notifier} {b : Nat} (h : n.bucket = some b) :
    n.inside = some () := by
  cases n <;> first | rfl | exact absurd h (by simp [bucket])

/-- The references are the senders inside, and there is none once the rundown was released. -/
structure RundownInv (s : Notifying) : Prop where
  listed : ∃ l, Listed l (fun i => (s.notifiers i).inside) ∧
    s.gChannelRundown.references = l.length
  active : s.closure ≠ .exchanged → s.gChannelRundown.active = true
  drained : s.closure.drained = true → ∀ i, (s.notifiers i).inside = none

section Rundown

variable {reason : UInt32} {s s' : Notifying} {i : Nat} {n : Notifier}

theorem inside_goto : (fun j => ((s.goto i n).notifiers j).inside)
    = Function.update (fun j => (s.notifiers j).inside) i n.inside :=
  funext fun j => Function.apply_update (fun _ => Notifier.inside) s.notifiers i n j

/-- A sender that neither enters nor leaves. -/
theorem RundownInv.stay (h : RundownInv s) (hside : n.inside = (s.notifiers i).inside)
    (hnotifiers : s'.notifiers = Function.update s.notifiers i n)
    (hrundown : s'.gChannelRundown = s.gChannelRundown) (hclosure : s'.closure = s.closure) :
    RundownInv s' := by
  have hsame : (fun j => (s'.notifiers j).inside) = fun j => (s.notifiers j).inside := by
    rw [hnotifiers]
    exact inside_goto.trans (by rw [hside]; exact Function.update_eq_self i _)
  refine ⟨?_, ?_, ?_⟩
  · rw [hsame, hrundown]
    exact h.listed
  · rw [hrundown, hclosure]
    exact h.active
  · rw [hclosure]
    exact fun hdrained j => (congrFun hsame j).trans (h.drained hdrained j)

/-- Whoever is inside keeps the rundown from being released. -/
theorem RundownInv.not_drained (h : RundownInv s) (hi : (s.notifiers i).inside = some ()) :
    s.closure.drained = false := by
  by_contra hdrained
  have hout := h.drained (by simpa using hdrained) i
  rw [hi] at hout
  exact absurd hout (by simp)

/-- **A sender's step.** -/
theorem RundownInv.notifier (h : RundownInv s) (hstep : notifierStep s i = some s') :
    RundownInv s' := by
  unfold notifierStep at hstep
  split at hstep
  next => exact absurd hstep (by simp)
  next call hpc =>
    obtain rfl := Option.some.inj hstep
    refine h.stay ?_ rfl rfl rfl
    rw [hpc]
    split
    next => rfl
    next => rfl
  next call hpc =>
    obtain ⟨l, hlisted, hrefs⟩ := h.listed
    unfold exAcquireRundownProtection at hstep
    by_cases hactive : s.gChannelRundown.active = true
    · rw [if_pos hactive] at hstep
      obtain rfl := Option.some.inj hstep
      exact h.stay (by rw [hpc]; rfl) rfl rfl rfl
    · rw [if_neg hactive] at hstep
      obtain rfl := Option.some.inj hstep
      have hout : (s.notifiers i).inside = none := by rw [hpc]; rfl
      refine ⟨⟨(i, ()) :: l, ?_, ?_⟩, fun hclosing => absurd (h.active hclosing) hactive,
        fun hdrained => ?_⟩
      · refine Eq.mpr (congrArg _ inside_goto) (hlisted.come hout)
      · exact congrArg (· + 1) hrefs
      · have hdrained : s.closure.drained = true := hdrained
        have hclosing : s.closure ≠ .exchanged := by
          intro hopen
          rw [hopen] at hdrained
          exact absurd hdrained (by decide)
        exact absurd (h.active hclosing) hactive
  next call hpc =>
    split at hstep
    next =>
      obtain rfl := Option.some.inj hstep
      exact h.stay (by rw [hpc]; rfl) rfl rfl rfl
    next =>
      obtain rfl := Option.some.inj hstep
      exact h.stay (by rw [hpc]; rfl) rfl rfl rfl
  next call freeIndex hpc =>
    obtain rfl := Option.some.inj hstep
    refine h.stay ?_ rfl rfl rfl
    rw [hpc]
    split
    next => rfl
    next => rfl
  next call bucket hpc =>
    obtain rfl := Option.some.inj hstep
    exact h.stay (by rw [hpc]; rfl) rfl rfl rfl
  next call bucket uniqueId stores hpc =>
    split at hstep
    next =>
      obtain rfl := Option.some.inj hstep
      exact h.stay (by rw [hpc]; rfl) rfl rfl rfl
    next =>
      obtain rfl := Option.some.inj hstep
      exact h.stay (by rw [hpc]; rfl) rfl rfl rfl
  next call bucket uniqueId hpc =>
    dsimp only at hstep
    split at hstep
    next =>
      obtain rfl := Option.some.inj hstep
      exact h.stay (by rw [hpc]; rfl) rfl rfl rfl
    next => exact absurd hstep (by simp)
  next call bucket hpc =>
    obtain rfl := Option.some.inj hstep
    exact h.stay (by rw [hpc]; rfl) rfl rfl rfl
  next call bucket action hpc =>
    obtain rfl := Option.some.inj hstep
    exact h.stay (by rw [hpc]; rfl) rfl rfl rfl
  next call action hpc =>
    obtain rfl := Option.some.inj hstep
    have hin : (s.notifiers i).inside = some () := by rw [hpc]; rfl
    have hopen := h.not_drained hin
    obtain ⟨l, hlisted, hrefs⟩ := h.listed
    obtain ⟨rest, hperm, hrest⟩ := hlisted.go hin
    refine ⟨⟨rest, Eq.mpr (congrArg _ inside_goto) hrest, ?_⟩, h.active,
      fun hdrained => absurd (hopen.symm.trans hdrained) (by decide)⟩
    show s.gChannelRundown.references - 1 = rest.length
    rw [hrefs, hperm.length_eq]
    rfl

/-- **A step of the closing thread.** -/
theorem RundownInv.closure (h : RundownInv s) (hstep : closureStep reason s = some s') :
    RundownInv s' := by
  have hsame : ∀ {t : Notifying}, t.notifiers = s.notifiers →
      t.gChannelRundown = s.gChannelRundown → s.closure ≠ .exchanged →
      (t.closure.drained = true → s.closure.drained = true) → RundownInv t := by
    intro t hnotifiers hrundown hclosing hdrained
    refine ⟨?_, fun _ => ?_, fun ht => ?_⟩
    · rw [hnotifiers, hrundown]
      exact h.listed
    · rw [hrundown]
      exact h.active hclosing
    · rw [hnotifiers]
      exact h.drained (hdrained ht)
  unfold closureStep at hstep
  split at hstep
  next hpc =>
    obtain rfl := Option.some.inj hstep
    exact ⟨h.listed, fun _ => rfl, fun hdrained => Bool.noConfusion hdrained⟩
  next hpc =>
    split at hstep
    next hzero =>
      obtain rfl := Option.some.inj hstep
      obtain ⟨l, hlisted, hrefs⟩ := h.listed
      obtain rfl : l = [] := List.length_eq_zero_iff.mp (hrefs.symm.trans hzero)
      refine ⟨⟨[], hlisted, hzero⟩, fun _ => h.active (by rw [hpc]; decide), fun _ i => ?_⟩
      cases hi : (s.notifiers i).inside with
      | none => rfl
      | some u => exact absurd ((hlisted.mem_iff i u).mpr hi) List.not_mem_nil
    next => exact absurd hstep (by simp)
  next hpc =>
    obtain rfl := Option.some.inj hstep
    obtain ⟨l, hlisted, hrefs⟩ := h.listed
    have hnone := h.drained (by rw [hpc]; rfl)
    obtain rfl := hlisted.eq_nil hnone
    exact ⟨⟨[], hlisted, rfl⟩, fun _ => rfl, fun _ => hnone⟩
  next hpc =>
    obtain rfl := Option.some.inj hstep
    exact hsame rfl rfl (by rw [hpc]; decide) fun _ => by rw [hpc]; rfl
  next idx hpc =>
    have hclosing : s.closure ≠ .exchanged := by rw [hpc]; exact Closure.noConfusion
    split at hstep
    next =>
      obtain rfl := Option.some.inj hstep
      exact hsame rfl rfl hclosing fun _ => by rw [hpc]; rfl
    next =>
      obtain rfl := Option.some.inj hstep
      exact hsame rfl rfl hclosing fun _ => by rw [hpc]; rfl
  next idx hpc =>
    obtain rfl := Option.some.inj hstep
    exact hsame rfl rfl (by rw [hpc]; exact Closure.noConfusion) fun _ => by rw [hpc]; rfl
  next hpc =>
    obtain rfl := Option.some.inj hstep
    exact hsame rfl rfl (by rw [hpc]; decide) fun _ => by rw [hpc]; rfl
  next => exact absurd hstep (by simp)

end Rundown

/-! ## What the buckets hold -/

/-- No event is set, and the helper is not at it. -/
structure Bucket.Quiet (x : Bucket) : Prop where
  lowEvent : x.lowEvent = false
  highEvent : x.highEvent = false
  serving : x.serving = false

/-- The first stores of the message were made. -/
def Bucket.Partial (x : Bucket) (call : NotificationCall) (uniqueId : UInt64) (stores : Nat) :
    Prop :=
  ∃ data, x.data = ((messageStores uniqueId call).take stores).foldl
    (fun data store => store data) data

/-- The message is there, and the turn is with the HighEvent, the helper or the LowEvent. -/
structure Bucket.Pending (x : Bucket) (call : NotificationCall) (uniqueId : UInt64) : Prop where
  message : readMessage x.data = .notification uniqueId 0 call
  turn : (x.highEvent = true ∧ x.serving = false ∧ x.lowEvent = false) ∨
    (x.highEvent = false ∧ x.serving = true ∧ x.lowEvent = false) ∨
    (x.highEvent = false ∧ x.serving = false ∧ x.lowEvent = true)

/-- What a sender expects of its bucket. -/
def Notifier.Expects (x : Bucket) : Notifier → Prop
  | filling call _ uniqueId stores => x.Quiet ∧ x.Partial call uniqueId stores
  | waiting call _ uniqueId => x.Pending call uniqueId
  | idle | called _ | tested _ | scanning _ | found _ _ | taken _ _ | woken _ _ | answered _ _ _
  | leaving _ _ => x.Quiet

/-- In `DsDestroyChannel`. -/
def Closure.terminating : Closure → Bool
  | exchanged | waiting | released | completed => false
  | filling _ | signalling _ | acknowledging | destroyed => true

/-- The loop of `DsDestroyChannel` has not come to this bucket. -/
def Closure.Before (b : Nat) : Closure → Prop
  | exchanged | waiting | released | completed => True
  | filling idx | signalling idx => idx ≤ b
  | acknowledging | destroyed => False

/-- What a bucket is told in the end. -/
structure Told (reason : UInt32) (s : Notifying) : Prop where
  read : ∀ b, (s.buckets b).highEvent = true ∨ (s.buckets b).serving = true →
    readMessage (s.buckets b).data = .terminate 0 0 reason
  written : ∀ idx, s.closure = .signalling idx →
    readMessage (s.buckets idx).data = .terminate 0 0 reason

/-- **The memory**: a bucket is as its holder expects; one that nobody holds is quiet, until it
is told to terminate, and then it says so to whoever reads it. -/
structure ContentsInv (reason : UInt32) (s : Notifying) : Prop where
  held : ∀ i b, (s.notifiers i).bucket = some b → (s.notifiers i).Expects (s.buckets b)
  free : ∀ b, s.closure.Before b → (∀ i, (s.notifiers i).bucket ≠ some b) → (s.buckets b).Quiet
  told : s.closure.terminating = true → Told reason s

theorem Closure.drained_of_terminating {c : Closure} (h : c.terminating = true) :
    c.drained = true := by
  cases c <;> first | rfl | exact absurd h (by decide)

theorem Closure.before_of_open {c : Closure} {b : Nat} (h : c.terminating = false) :
    c.Before b := by
  cases c with
  | exchanged | waiting | released | completed => trivial
  | filling | signalling | acknowledging | destroyed => exact Bool.noConfusion h

section Contents

variable {reason : UInt32} {s s' : Notifying} {i b : Nat} {n : Notifier} {x : Bucket}

/-- In a bucket whose holder does not wait, and in one that nobody holds, nobody has the
turn. -/
theorem Notifier.Expects.quiet (h : n.Expects x)
    (hwaits : ∀ call bucket uniqueId, n ≠ .waiting call bucket uniqueId) : x.Quiet := by
  cases n with
  | filling call b uniqueId stores => exact h.1
  | waiting call b uniqueId => exact absurd rfl (hwaits call b uniqueId)
  | _ => exact h

/-- A sender that has no bucket, before and after. -/
theorem ContentsInv.stay (h : ContentsInv reason s) (hold : (s.notifiers i).bucket = none)
    (hnew : n.bucket = none) (hnotifiers : s'.notifiers = Function.update s.notifiers i n)
    (hbuckets : s'.buckets = s.buckets) (hclosure : s'.closure = s.closure) :
    ContentsInv reason s' := by
  refine ⟨fun j b hj => ?_, fun b hbefore hnone => ?_, fun hterm => ?_⟩
  · rw [hnotifiers] at hj ⊢
    rw [hbuckets]
    by_cases hji : j = i
    · rw [hji, Function.update_self, hnew] at hj
      exact absurd hj (by simp)
    · rw [Function.update_of_ne hji] at hj ⊢
      exact h.held j b hj
  · rw [hbuckets]
    rw [hclosure] at hbefore
    refine h.free b hbefore fun j hj => ?_
    by_cases hji : j = i
    · rw [hji, hold] at hj
      exact absurd hj (by simp)
    · refine hnone j ?_
      rw [hnotifiers, Function.update_of_ne hji]
      exact hj
  · rw [hclosure] at hterm
    obtain ⟨hread, hwritten⟩ := h.told hterm
    exact ⟨by rw [hbuckets]; exact hread, by rw [hbuckets, hclosure]; exact hwritten⟩

/-- **A sender with a bucket**, before or after or both, that leaves it as it expects it. -/
theorem ContentsInv.move (h : ContentsInv reason s) (hopen : s.closure.terminating = false)
    (hothers : ∀ j, j ≠ i → (s.notifiers j).bucket ≠ some b)
    (hold : ∀ b', (s.notifiers i).bucket = some b' → b' = b)
    (hnew : ∀ b', n.bucket = some b' → b' = b ∧ n.Expects x)
    (hfree : n.bucket ≠ some b → x.Quiet)
    (hnotifiers : s'.notifiers = Function.update s.notifiers i n)
    (hbuckets : s'.buckets = Function.update s.buckets b x) (hclosure : s'.closure = s.closure) :
    ContentsInv reason s' := by
  refine ⟨fun j b' hj => ?_, fun b' hbefore hnone => ?_, fun hterm => ?_⟩
  · rw [hnotifiers] at hj ⊢
    rw [hbuckets]
    by_cases hji : j = i
    · rw [hji, Function.update_self] at hj ⊢
      obtain ⟨rfl, hexpects⟩ := hnew b' hj
      rw [Function.update_self]
      exact hexpects
    · rw [Function.update_of_ne hji] at hj ⊢
      have hb : b' ≠ b := fun heq => hothers j hji (heq ▸ hj)
      rw [Function.update_of_ne hb]
      exact h.held j b' hj
  · rw [hbuckets]
    rw [hclosure] at hbefore
    by_cases hb : b' = b
    · rw [hb, Function.update_self]
      refine hfree fun hn => hnone i ?_
      rw [hnotifiers, Function.update_self, hn, hb]
    · rw [Function.update_of_ne hb]
      refine h.free b' hbefore fun j hj => ?_
      by_cases hji : j = i
      · rw [hji] at hj
        exact hb (hold b' hj)
      · refine hnone j ?_
        rw [hnotifiers, Function.update_of_ne hji]
        exact hj
  · rw [hclosure, hopen] at hterm
    exact absurd hterm (by decide)

/-- With a bucket, a sender keeps the channel from being destroyed. -/
theorem RundownInv.not_terminating (h : RundownInv s) (hi : (s.notifiers i).bucket = some b) :
    s.closure.terminating = false := by
  by_contra hterm
  have hdrained := Closure.drained_of_terminating (by simpa using hterm)
  rw [h.not_drained (Notifier.inside_of_bucket hi)] at hdrained
  exact absurd hdrained (by decide)

/-- A sender goes on with the bucket that it has. -/
theorem ContentsInv.keep (h : ContentsInv reason s) (hbuckets : BucketsInv s.toBuckets)
    (hrundown : RundownInv s) (hi : (s.notifiers i).bucket = some b) (hn : n.bucket = some b)
    (hexpects : n.Expects x) : ContentsInv reason ((s.setBucket b x).goto i n) := by
  refine @ContentsInv.move _ _ _ i b n x h (hrundown.not_terminating hi) (hbuckets.alone hi)
    (fun b' hb' => ?_) (fun b' hb' => ?_) (fun hne => absurd hn hne) rfl rfl rfl
  · exact Option.some.inj (hb'.symm.trans hi)
  · exact ⟨Option.some.inj (hb'.symm.trans hn), hexpects⟩

/-- The same, where the bucket stays as it is. -/
theorem ContentsInv.keep_same (h : ContentsInv reason s) (hbuckets : BucketsInv s.toBuckets)
    (hrundown : RundownInv s) (hi : (s.notifiers i).bucket = some b) (hn : n.bucket = some b)
    (hexpects : n.Expects (s.buckets b)) (hs' : s'.notifiers = Function.update s.notifiers i n)
    (hsame : s'.buckets = s.buckets) (hclosure : s'.closure = s.closure) :
    ContentsInv reason s' := by
  refine @ContentsInv.move _ _ _ i b n (s.buckets b) h (hrundown.not_terminating hi)
    (hbuckets.alone hi) (fun b' hb' => ?_) (fun b' hb' => ?_) (fun hne => absurd hn hne) hs' ?_
    hclosure
  · exact Option.some.inj (hb'.symm.trans hi)
  · exact ⟨Option.some.inj (hb'.symm.trans hn), hexpects⟩
  · rw [hsame, Function.update_eq_self]

/-- **A sender's step.** -/
theorem ContentsInv.notifier (h : ContentsInv reason s) (hbuckets : BucketsInv s.toBuckets)
    (hrundown : RundownInv s) (hstep : notifierStep s i = some s') : ContentsInv reason s' := by
  unfold notifierStep at hstep
  split at hstep
  next => exact absurd hstep (by simp)
  next call hpc =>
    obtain rfl := Option.some.inj hstep
    refine h.stay (by rw [hpc]; rfl) ?_ rfl rfl rfl
    split
    next => rfl
    next => rfl
  next call hpc =>
    split at hstep
    next =>
      obtain rfl := Option.some.inj hstep
      exact h.stay (by rw [hpc]; rfl) rfl rfl rfl rfl
    next =>
      obtain rfl := Option.some.inj hstep
      exact h.stay (by rw [hpc]; rfl) rfl rfl rfl rfl
  next call hpc =>
    split at hstep
    next =>
      obtain rfl := Option.some.inj hstep
      exact h.stay (by rw [hpc]; rfl) rfl rfl rfl rfl
    next =>
      obtain rfl := Option.some.inj hstep
      exact h.stay (by rw [hpc]; rfl) rfl rfl rfl rfl
  next call freeIndex hpc =>
    obtain rfl := Option.some.inj hstep
    rw [interlockedBitTestAndReset_fst]
    have hnone : (s.notifiers i).bucket = none := by rw [hpc]; rfl
    by_cases hset : s.bucketsBitMap.getLsbD freeIndex = true
    · -- nobody has the bucket, so it is quiet
      rw [if_pos hset]
      have hfree : ∀ j, (s.notifiers j).bucket ≠ some freeIndex := fun j hj =>
        ((hbuckets.ok.complement freeIndex).mp hset).2 j (Notifier.bucketSender_holding.mpr hj)
      have hopen := hrundown.not_drained (i := i) (by rw [hpc]; rfl)
      have hterm : s.closure.terminating = false := by
        by_contra hterm
        rw [Closure.drained_of_terminating (by simpa using hterm)] at hopen
        exact absurd hopen (by decide)
      refine @ContentsInv.move _ _ _ i freeIndex _ (s.buckets freeIndex) h hterm
        (fun j _ => hfree j) (fun b' hb' => ?_) (fun b' hb' => ?_) (fun hne => absurd rfl hne) rfl
        (Function.update_eq_self ..).symm rfl
      · rw [hnone] at hb'
        exact absurd hb' (by simp)
      · exact ⟨Option.some.inj hb'.symm, h.free freeIndex (Closure.before_of_open hterm) hfree⟩
    · rw [if_neg hset]
      exact h.stay hnone rfl rfl rfl rfl
  next call bucket hpc =>
    obtain rfl := Option.some.inj hstep
    have hi : (s.notifiers i).bucket = some bucket := by rw [hpc]; rfl
    have hquiet := (h.held i bucket hi).quiet (by rw [hpc]; exact fun _ _ _ => by simp)
    exact h.keep_same (n := .filling call bucket (s.uniqueId + 1) 0) hbuckets hrundown hi rfl
      ⟨hquiet, _, rfl⟩ rfl rfl rfl
  next call bucket uniqueId stores hpc =>
    have hi : (s.notifiers i).bucket = some bucket := by rw [hpc]; rfl
    have hexpects := h.held i bucket hi
    rw [hpc] at hexpects
    obtain ⟨hquiet, data, hdata⟩ := hexpects
    split at hstep
    next store hstore =>
      -- one store more
      obtain rfl := Option.some.inj hstep
      refine h.keep hbuckets hrundown hi rfl
        ⟨⟨hquiet.lowEvent, hquiet.highEvent, hquiet.serving⟩, data, ?_⟩
      show store (s.buckets bucket).data = _
      rw [hdata, List.take_add_one, hstore, Option.toList_some, List.foldl_append]
      rfl
    next hdone =>
      -- the message is complete
      obtain rfl := Option.some.inj hstep
      have hall : (messageStores uniqueId call).take stores = messageStores uniqueId call :=
        List.take_of_length_le (List.getElem?_eq_none_iff.mp hdone)
      refine h.keep hbuckets hrundown hi rfl ⟨?_, Or.inl ⟨rfl, hquiet.serving, hquiet.lowEvent⟩⟩
      show readMessage (s.buckets bucket).data = _
      rw [hdata, hall]
      exact readMessage_stores uniqueId call
  next call bucket uniqueId hpc =>
    dsimp only at hstep
    split at hstep
    next hlow =>
      obtain rfl := Option.some.inj hstep
      have hi : (s.notifiers i).bucket = some bucket := by rw [hpc]; rfl
      have hexpects := h.held i bucket hi
      rw [hpc] at hexpects
      obtain ⟨_, hturn⟩ := hexpects
      rw [hlow] at hturn
      have hrest : (s.buckets bucket).highEvent = false ∧ (s.buckets bucket).serving = false := by
        simpa using hturn
      exact h.keep hbuckets hrundown hi rfl ⟨rfl, hrest.1, hrest.2⟩
    next => exact absurd hstep (by simp)
  next call bucket hpc =>
    obtain rfl := Option.some.inj hstep
    have hi : (s.notifiers i).bucket = some bucket := by rw [hpc]; rfl
    have hquiet := (h.held i bucket hi).quiet (by rw [hpc]; exact fun _ _ _ => by simp)
    exact h.keep_same (n := .answered call bucket _) hbuckets hrundown hi rfl hquiet rfl rfl rfl
  next call bucket action hpc =>
    obtain rfl := Option.some.inj hstep
    have hi : (s.notifiers i).bucket = some bucket := by rw [hpc]; rfl
    have hquiet := (h.held i bucket hi).quiet (by rw [hpc]; exact fun _ _ _ => by simp)
    refine @ContentsInv.move _ _ _ i bucket _ (s.buckets bucket) h (hrundown.not_terminating hi)
      (hbuckets.alone hi) (fun b' hb' => ?_) (fun b' hb' => ?_) (fun _ => hquiet) rfl
      (Function.update_eq_self ..).symm rfl
    · exact Option.some.inj (hb'.symm.trans hi)
    · exact absurd hb' (by simp [Notifier.bucket])
  next call action hpc =>
    obtain rfl := Option.some.inj hstep
    exact h.stay (by rw [hpc]; rfl) rfl rfl rfl rfl

/-- **A step of the helper**, which has the turn in the bucket. -/
theorem ContentsInv.helper (h : ContentsInv reason s)
    (hturn : (s.buckets b).highEvent = true ∨ (s.buckets b).serving = true)
    (hpending : ∀ call uniqueId, (s.buckets b).Pending call uniqueId → x.Pending call uniqueId)
    (hread : readMessage x.data = readMessage (s.buckets b).data) :
    ContentsInv reason (s.setBucket b x) := by
  have hnot : ¬ (s.buckets b).Quiet := by
    intro hquiet
    rcases hturn with hhigh | hserving
    · exact absurd (hquiet.highEvent.symm.trans hhigh) (by decide)
    · exact absurd (hquiet.serving.symm.trans hserving) (by decide)
  refine ⟨fun j b' hj => ?_, fun b' hbefore hnone => ?_, fun hterm => ?_⟩
  · show (s.notifiers j).Expects (Function.update s.buckets b x b')
    have hexpects := h.held j b' hj
    by_cases hb : b' = b
    · rw [hb, Function.update_self]
      rw [hb] at hexpects
      cases hpc : s.notifiers j with
      | waiting call bucket uniqueId =>
        rw [hpc] at hexpects
        exact hpending call uniqueId hexpects
      | _ => exact absurd (hexpects.quiet (by simp [hpc])) hnot
    · rw [Function.update_of_ne hb]
      exact hexpects
  · show (Function.update s.buckets b x b').Quiet
    by_cases hb : b' = b
    · rw [hb] at hbefore hnone
      exact absurd (h.free b hbefore hnone) hnot
    · rw [Function.update_of_ne hb]
      exact h.free b' hbefore hnone
  · obtain ⟨htold, hwritten⟩ := h.told hterm
    refine ⟨fun b' hb' => ?_, fun idx hidx => ?_⟩
    · show readMessage (Function.update s.buckets b x b').data = _
      by_cases hb : b' = b
      · rw [hb, Function.update_self, hread]
        exact htold b hturn
      · have hb' : (Function.update s.buckets b x b').highEvent = true ∨
            (Function.update s.buckets b x b').serving = true := hb'
        rw [Function.update_of_ne hb] at hb' ⊢
        exact htold b' hb'
    · show readMessage (Function.update s.buckets b x idx).data = _
      have hsame := hwritten idx hidx
      by_cases hb : idx = b
      · rw [hb, Function.update_self, hread, ← hb]
        exact hsame
      · rw [Function.update_of_ne hb]
        exact hsame

/-- Nobody has a bucket once the rundown was released. -/
theorem RundownInv.no_bucket (h : RundownInv s) (hdrained : s.closure.drained = true) (i b : Nat) :
    (s.notifiers i).bucket ≠ some b := by
  intro hi
  have hout := h.drained hdrained i
  rw [Notifier.inside_of_bucket hi] at hout
  exact absurd hout (by simp)

/-- The closing thread goes on with a bucket, or without. -/
theorem ContentsInv.destroy (h : ContentsInv reason s) (hrundown : RundownInv s)
    (hdrained : s.closure.drained = true) (hnotifiers : s'.notifiers = s.notifiers)
    (hbuckets : s'.buckets = Function.update s.buckets b x)
    (hbefore : ∀ b', s'.closure.Before b' → s.closure.Before b')
    (hx : s'.closure.Before b → x.Quiet)
    (hread : s'.closure.terminating = true → x.highEvent = true ∨ x.serving = true →
      readMessage x.data = .terminate 0 0 reason)
    (hothers : s'.closure.terminating = true → ∀ b', b' ≠ b →
      (s.buckets b').highEvent = true ∨ (s.buckets b').serving = true →
      readMessage (s.buckets b').data = .terminate 0 0 reason)
    (hwritten : ∀ idx, s'.closure = .signalling idx →
      readMessage (s'.buckets idx).data = .terminate 0 0 reason) :
    ContentsInv reason s' := by
  have hnobody := hrundown.no_bucket hdrained
  refine ⟨fun j b' hj => ?_, fun b' hb' _ => ?_, fun hterm => ⟨fun b' hb' => ?_, hwritten⟩⟩
  · rw [hnotifiers] at hj
    exact absurd hj (hnobody j b')
  · rw [hbuckets]
    by_cases hb : b' = b
    · rw [hb] at hb' ⊢
      rw [Function.update_self]
      exact hx hb'
    · rw [Function.update_of_ne hb]
      exact h.free b' (hbefore b' hb') fun j => hnobody j b'
  · rw [hbuckets] at hb' ⊢
    by_cases hb : b' = b
    · rw [hb, Function.update_self] at hb' ⊢
      exact hread hterm hb'
    · rw [Function.update_of_ne hb] at hb' ⊢
      exact hothers hterm b' hb hb'

/-- The closing thread before `DsDestroyChannel`. -/
theorem ContentsInv.close (h : ContentsInv reason s) (hnotifiers : s'.notifiers = s.notifiers)
    (hbuckets : s'.buckets = s.buckets) (hopen : s.closure.terminating = false)
    (hstill : s'.closure.terminating = false) : ContentsInv reason s' := by
  refine ⟨fun i b hi => ?_, fun b _ hnone => ?_, fun hterm => absurd (hstill.symm.trans hterm)
    (by decide)⟩
  · rw [hnotifiers] at hi ⊢
    rw [hbuckets]
    exact h.held i b hi
  · rw [hbuckets]
    rw [hnotifiers] at hnone
    exact h.free b (Closure.before_of_open hopen) hnone

/-- A quiet bucket is not read. -/
theorem Bucket.Quiet.not_read (h : x.Quiet) : ¬ (x.highEvent = true ∨ x.serving = true) := by
  rw [h.highEvent, h.serving]
  decide

/-- **A step of the closing thread.** -/
theorem ContentsInv.closure (h : ContentsInv reason s) (hrundown : RundownInv s)
    (hstep : closureStep reason s = some s') : ContentsInv reason s' := by
  unfold closureStep at hstep
  split at hstep
  next hpc =>
    obtain rfl := Option.some.inj hstep
    exact h.close rfl rfl (by rw [hpc]; rfl) rfl
  next hpc =>
    split at hstep
    next =>
      obtain rfl := Option.some.inj hstep
      exact h.close rfl rfl (by rw [hpc]; rfl) rfl
    next => exact absurd hstep (by simp)
  next hpc =>
    obtain rfl := Option.some.inj hstep
    exact h.close rfl rfl (by rw [hpc]; rfl) rfl
  next hpc =>
    -- nobody is inside, and so all buckets are quiet
    obtain rfl := Option.some.inj hstep
    have hdrained : s.closure.drained = true := by rw [hpc]; rfl
    have hquiet : ∀ b, (s.buckets b).Quiet := fun b =>
      h.free b (by rw [hpc]; trivial) fun j => hrundown.no_bucket hdrained j b
    refine h.destroy (b := 0) (x := s.buckets 0) hrundown hdrained rfl
      (Function.update_eq_self ..).symm (fun b _ => by rw [hpc]; trivial) (fun _ => hquiet 0)
      (fun _ hread => absurd hread (hquiet 0).not_read)
      (fun _ b _ hread => absurd hread (hquiet b).not_read) fun idx hidx => ?_
    exact Closure.noConfusion hidx
  next idx hpc =>
    have hdrained : s.closure.drained = true := by rw [hpc]; rfl
    have htold := h.told (by rw [hpc]; rfl)
    split at hstep
    next =>
      obtain rfl := Option.some.inj hstep
      have hquiet : (s.buckets idx).Quiet :=
        h.free idx (by rw [hpc]; exact Nat.le_refl idx) fun j => hrundown.no_bucket hdrained j idx
      refine h.destroy (b := idx) hrundown hdrained rfl rfl (fun b hb => by rw [hpc]; exact hb)
        (fun _ => ⟨hquiet.lowEvent, hquiet.highEvent, hquiet.serving⟩)
        (fun _ _ => readMessage_terminate reason) (fun _ b _ => htold.read b) fun idx' hidx => ?_
      obtain rfl := Closure.signalling.inj hidx
      show readMessage (Function.update s.buckets idx _ idx).data = _
      rw [Function.update_self]
      exact readMessage_terminate reason
    next =>
      obtain rfl := Option.some.inj hstep
      exact h.destroy (b := idx) (x := s.buckets idx) hrundown hdrained rfl
        (Function.update_eq_self ..).symm (fun _ hb => False.elim hb) (fun hb => False.elim hb)
        (fun _ => htold.read idx) (fun _ b _ => htold.read b) fun _ hidx => Closure.noConfusion hidx
  next idx hpc =>
    obtain rfl := Option.some.inj hstep
    have hdrained : s.closure.drained = true := by rw [hpc]; rfl
    have htold := h.told (by rw [hpc]; rfl)
    refine h.destroy (b := idx) hrundown hdrained rfl rfl
      (fun b hb => by rw [hpc]; exact Nat.le_of_succ_le hb)
      (fun hb => absurd hb (Nat.not_succ_le_self idx)) (fun _ _ => htold.written idx hpc)
      (fun _ b _ => htold.read b) fun _ hidx => Closure.noConfusion hidx
  next hpc =>
    obtain rfl := Option.some.inj hstep
    have htold := h.told (by rw [hpc]; rfl)
    exact h.destroy (b := 0) (x := s.buckets 0) hrundown (by rw [hpc]; rfl) rfl
      (Function.update_eq_self ..).symm (fun _ hb => False.elim hb) (fun hb => False.elim hb)
      (fun _ => htold.read 0) (fun _ b _ => htold.read b) fun _ hidx => Closure.noConfusion hidx
  next => exact absurd hstep (by simp)

end Contents

/-! ## The simulation -/

/-- Where the service has a sender. -/
def placeOf (buckets : Nat → Bucket) : Notifier → ServicePlace
  | .idle => .idle
  | .called call | .tested call | .scanning call | .found call _ | .taken call _
  | .leaving call none => .asked call
  | .filling call _ uniqueId _ => .posted call uniqueId
  | .waiting call b uniqueId =>
    if (buckets b).lowEvent then .done call ((buckets b).data.load32 bucketAction)
    else if (buckets b).serving then .served call uniqueId
    else .posted call uniqueId
  | .woken call b => .done call ((buckets b).data.load32 bucketAction)
  | .answered call _ action | .leaving call (some action) => .done call action

/-- The service that is seen. -/
def Notifying.service (s : Notifying) : Service where
  shut := s.closure.drained
  uniqueId := s.uniqueId
  places i := placeOf s.buckets (s.notifiers i)

/-- **The invariant** of the channel. -/
structure NotifyInv (reason : UInt32) (s : Notifying) : Prop where
  buckets : BucketsInv s.toBuckets
  rundown : RundownInv s
  contents : ContentsInv reason s

/-- The relation between the two. -/
def ServedAs (reason : UInt32) (s : Notifying) (t : Service) : Prop :=
  NotifyInv reason s ∧ t = s.service

theorem notifyInv_initial (reason : UInt32) : NotifyInv reason .initial where
  buckets := bucketsInv_initial
  rundown := ⟨⟨[], listed_nil, rfl⟩, fun h => absurd rfl h, fun h => Bool.noConfusion h⟩
  contents := ⟨fun _ _ h => absurd h (by simp [Notifying.initial, Notifier.bucket]),
    fun _ _ _ => ⟨rfl, rfl, rfl⟩, fun h => Bool.noConfusion h⟩

section Steps

variable {reason : UInt32} {s s' : Notifying} {i b : Nat} {n : Notifier} {x : Bucket}

theorem RundownInv.setBucket (h : RundownInv s) : RundownInv (s.setBucket b x) :=
  ⟨h.listed, h.active, h.drained⟩

/-- The closing thread is no sender. -/
theorem closureStep_keeps (hstep : closureStep reason s = some s') :
    s'.toBuckets = s.toBuckets ∧ s'.uniqueId = s.uniqueId ∧ s'.notifiers = s.notifiers := by
  unfold closureStep at hstep
  split at hstep
  next =>
    obtain rfl := Option.some.inj hstep
    exact ⟨rfl, rfl, rfl⟩
  next =>
    split at hstep
    next =>
      obtain rfl := Option.some.inj hstep
      exact ⟨rfl, rfl, rfl⟩
    next => exact absurd hstep (by simp)
  next =>
    obtain rfl := Option.some.inj hstep
    exact ⟨rfl, rfl, rfl⟩
  next =>
    obtain rfl := Option.some.inj hstep
    exact ⟨rfl, rfl, rfl⟩
  next =>
    split at hstep
    next =>
      obtain rfl := Option.some.inj hstep
      exact ⟨rfl, rfl, rfl⟩
    next =>
      obtain rfl := Option.some.inj hstep
      exact ⟨rfl, rfl, rfl⟩
  next =>
    obtain rfl := Option.some.inj hstep
    exact ⟨rfl, rfl, rfl⟩
  next =>
    obtain rfl := Option.some.inj hstep
    exact ⟨rfl, rfl, rfl⟩
  next => exact absurd hstep (by simp)

/-- **One step keeps the invariant.** -/
theorem NotifyInv.step {action : NotifyAction} (h : NotifyInv reason s)
    (hstep : (notifySystem reason).step s action = some s') : NotifyInv reason s' := by
  cases action with
  | call i call =>
    simp only [notifySystem] at hstep
    split at hstep
    next hidle =>
      obtain rfl := Option.some.inj hstep
      refine ⟨?_, h.rundown.stay (by rw [hidle]; rfl) rfl rfl rfl,
        h.contents.stay (by rw [hidle]; rfl) rfl rfl rfl rfl⟩
      rw [toBuckets_goto_same (by rw [hidle]; rfl)]
      exact h.buckets
    next => exact absurd hstep (by simp)
  | goOn i =>
    refine ⟨?_, h.rundown.notifier hstep, h.contents.notifier h.buckets h.rundown hstep⟩
    rcases notifierStep_buckets hstep with hsame | hmoves
    · rw [hsame]
      exact h.buckets
    · exact bucketStep_inv h.buckets hmoves
  | helperTakes b =>
    simp only [notifySystem] at hstep
    split at hstep
    next hturn =>
      obtain rfl := Option.some.inj hstep
      refine ⟨h.buckets, h.rundown.setBucket,
        h.contents.helper (Or.inl hturn.1) (fun call uniqueId hp => ?_) rfl⟩
      obtain ⟨hmessage, hturns⟩ := hp
      rw [hturn.1] at hturns
      exact ⟨hmessage, Or.inr (Or.inl ⟨rfl, rfl, (by simpa using hturns : _ ∧ _).2⟩)⟩
    next => exact absurd hstep (by simp)
  | helperReads b =>
    simp only [notifySystem] at hstep
    split at hstep
    next =>
      obtain rfl := Option.some.inj hstep
      exact h
    next => exact absurd hstep (by simp)
  | helperDecides b action =>
    simp only [notifySystem] at hstep
    split at hstep
    next hturn =>
      obtain rfl := Option.some.inj hstep
      refine ⟨h.buckets, h.rundown.setBucket,
        h.contents.helper (Or.inr hturn.1)
          (fun call uniqueId hp => ?_) (readMessage_storeAction action)⟩
      exact ⟨(readMessage_storeAction action).trans hp.message, hp.turn⟩
    next => exact absurd hstep (by simp)
  | helperAnswers b =>
    simp only [notifySystem] at hstep
    split at hstep
    next hturn =>
      obtain rfl := Option.some.inj hstep
      refine ⟨h.buckets, h.rundown.setBucket,
        h.contents.helper (Or.inr hturn.1) (fun call uniqueId hp => ?_) rfl⟩
      obtain ⟨hmessage, hturns⟩ := hp
      rw [hturn.1] at hturns
      exact ⟨hmessage, Or.inr (Or.inr ⟨(by simpa using hturns : _ ∧ _).1, rfl, rfl⟩)⟩
    next => exact absurd hstep (by simp)
  | close =>
    have hsame := (closureStep_keeps hstep).1
    exact ⟨hsame ▸ h.buckets, h.rundown.closure hstep, h.contents.closure h.rundown hstep⟩

/-! What is seen of a sender depends on its own bucket. -/

theorem placeOf_update (h : n.bucket ≠ some b) :
    placeOf (Function.update s.buckets b x) n = placeOf s.buckets n := by
  cases n with
  | waiting call b' uniqueId | woken call b' =>
    have hb : b' ≠ b := fun heq => h (congrArg some heq)
    simp only [placeOf, Function.update_of_ne hb]
  | leaving call action => cases action <;> rfl
  | _ => rfl

theorem service_goto : (s.goto i n).service = s.service.goto i (placeOf s.buckets n) := by
  unfold Notifying.service Notifying.goto Service.goto
  congr 1
  funext j
  exact Function.apply_update (fun _ => placeOf s.buckets) s.notifiers i n j

/-- A sender that moves, and changes its bucket. -/
theorem service_setBucket_goto (hothers : ∀ j, j ≠ i → (s.notifiers j).bucket ≠ some b) :
    ((s.setBucket b x).goto i n).service
      = s.service.goto i (placeOf (Function.update s.buckets b x) n) := by
  unfold Notifying.service Notifying.goto Notifying.setBucket Service.goto
  congr 1
  funext j
  show placeOf (Function.update s.buckets b x) (Function.update s.notifiers i n j) = _
  by_cases hji : j = i
  · rw [hji, Function.update_self, Function.update_self]
  · rw [Function.update_of_ne hji, Function.update_of_ne hji]
    exact placeOf_update (hothers j hji)

theorem Service.goto_self (t : Service) (i : Nat) : t.goto i (t.places i) = t := by
  unfold Service.goto
  rw [Function.update_eq_self]

/-- Only the place of the holder sees a bucket change. -/
theorem service_setBucket (hi : ∀ j, j ≠ i → (s.notifiers j).bucket ≠ some b) :
    (s.setBucket b x).service
      = s.service.goto i (placeOf (Function.update s.buckets b x) (s.notifiers i)) := by
  have hgoto : (s.setBucket b x).goto i (s.notifiers i) = s.setBucket b x := by
    unfold Notifying.goto Notifying.setBucket
    simp only [Function.update_eq_self]
  rw [← hgoto]
  exact service_setBucket_goto hi

/-- Nobody sees a bucket change that nobody holds. -/
theorem service_setBucket_free (h : ∀ j, (s.notifiers j).bucket ≠ some b) :
    (s.setBucket b x).service = s.service := by
  unfold Notifying.service Notifying.setBucket
  congr 1
  funext j
  exact placeOf_update (h j)

/-- The closing thread writes into a bucket that nobody has. -/
theorem service_closing {c : Closure} (h : ∀ j, (s.notifiers j).bucket ≠ some b)
    (hc : c.drained = s.closure.drained) :
    ({ s.setBucket b x with closure := c } : Notifying).service = s.service := by
  rw [← service_setBucket_free (x := x) h]
  unfold Notifying.service
  rw [hc]
  rfl

/-- **Whose turn it is**: of a sender that waits, or of nobody, and then the bucket says
that it is over. -/
theorem NotifyInv.turn (h : NotifyInv reason s)
    (hturn : (s.buckets b).highEvent = true ∨ (s.buckets b).serving = true) :
    (∃ i call uniqueId, s.notifiers i = .waiting call b uniqueId ∧
      (s.buckets b).Pending call uniqueId) ∨
    (∀ j, (s.notifiers j).bucket ≠ some b) ∧ s.closure.drained = true ∧
      readMessage (s.buckets b).data = .terminate 0 0 reason := by
  by_cases hheld : ∃ i, (s.notifiers i).bucket = some b
  · obtain ⟨i, hi⟩ := hheld
    have hexpects := h.contents.held i b hi
    cases hpc : s.notifiers i with
    | waiting call b' uniqueId =>
      rw [hpc] at hi hexpects
      obtain rfl := Option.some.inj hi
      exact Or.inl ⟨i, call, uniqueId, hpc, hexpects⟩
    | _ => exact absurd hturn (hexpects.quiet (by simp [hpc])).not_read
  · have hnone : ∀ j, (s.notifiers j).bucket ≠ some b := fun j hj => hheld ⟨j, hj⟩
    right
    cases hterm : s.closure.terminating with
    | false =>
      exact absurd hturn (h.contents.free b (Closure.before_of_open hterm) hnone).not_read
    | true =>
      exact ⟨hnone, Closure.drained_of_terminating hterm, (h.contents.told hterm).read b hturn⟩

end Steps

/-! The steps of the service. -/

section Service

variable (reason : UInt32) {t : Service} {i : Nat} {call : NotificationCall}
  {uniqueId : UInt64} {status : NtStatus}

theorem service_call (h : t.places i = .idle) :
    (notificationService reason).step t (.call i call) = some (t.goto i (.asked call)) := if_pos h

theorem service_refuse (h : t.places i = .asked call) (hstatus : ntSuccess status = false) :
    (notificationService reason).step t (.refuse i status) = some (t.goto i .idle) ∧
      (notificationService reason).shows t (.refuse i status)
        = some (.returned i call status none) := by
  simp [notificationService, h, hstatus]

theorem service_post (h : t.places i = .asked call) (hopen : t.shut = false) :
    (notificationService reason).step t (.post i)
      = some ({ t with uniqueId := t.uniqueId + 1 }.goto i (.posted call (t.uniqueId + 1))) := by
  simp [notificationService, h, hopen]

theorem service_take (h : t.places i = .posted call uniqueId) :
    (notificationService reason).step t (.take i) = some (t.goto i (.served call uniqueId)) := by
  simp [notificationService, h]

theorem service_hear (h : t.places i = .served call uniqueId) :
    (notificationService reason).step t (.hear i) = some t ∧
      (notificationService reason).shows t (.hear i)
        = some (.heard (.notification uniqueId 0 call)) := by
  simp [notificationService, h]

theorem service_answer (action : UInt32) (h : t.places i = .served call uniqueId) :
    (notificationService reason).step t (.answer i action) = some (t.goto i (.done call action)) ∧
      (notificationService reason).shows t (.answer i action)
        = some (.answered uniqueId action) := by
  simp [notificationService, h]

theorem service_finish {action : UInt32} (h : t.places i = .done call action) :
    (notificationService reason).step t (.finish i) = some (t.goto i .idle) ∧
      (notificationService reason).shows t (.finish i)
        = some (.returned i call statusSuccess (some action)) := by
  simp [notificationService, h]

theorem service_shutDown (h : ∀ i, ¬ (t.places i).inProgress) :
    (notificationService reason).step t .shutDown = some { t with shut := true } := if_pos h

theorem service_terminate (h : t.shut = true) :
    (notificationService reason).step t .terminate = some t := if_pos h

end Service

section Simulation

variable {reason : UInt32} {s s' : Notifying} {i b : Nat} {n : Notifier}

/-- Where the service has a sender whose place is known. -/
theorem service_places (h : s.notifiers i = n) : s.service.places i = placeOf s.buckets n :=
  congrArg (placeOf s.buckets) h

/-- A sender that moves unseen. -/
theorem service_goto_quiet (h : placeOf s.buckets n = s.service.places i) :
    (s.goto i n).service = s.service := by
  rw [service_goto, h, Service.goto_self]

/-- What matches a step of the channel. -/
def Matched (reason : UInt32) (s s' : Notifying) (action : NotifyAction) : Prop :=
  ∃ bs t', (notificationService reason).run s.service bs = some t' ∧
    (notificationService reason).trace s.service bs
      = ((notifySystem reason).shows s action).toList ∧ t' = s'.service

theorem Matched.stays {action : NotifyAction}
    (hshows : (notifySystem reason).shows s action = none) (h : s'.service = s.service) :
    Matched reason s s' action :=
  ⟨[], _, rfl, by rw [hshows]; rfl, h.symm⟩

theorem Matched.moves {action : NotifyAction} {b : ServiceAction} {t : Service}
    (hstep : (notificationService reason).step s.service b = some t)
    (hshows : (notificationService reason).shows s.service b
      = (notifySystem reason).shows s action) (h : s'.service = t) :
    Matched reason s s' action :=
  ⟨[b], t, System.run_one hstep, by rw [System.trace_one hstep, hshows], h.symm⟩

/-- **A sender's step is matched.** -/
theorem notifier_matched (h : NotifyInv reason s) (hstep : notifierStep s i = some s') :
    Matched reason s s' (.goOn i) := by
  have hshows : (notifySystem reason).shows s (.goOn i) = notifierShows s i := rfl
  have hquiet : ∀ {m : Notifier}, s.notifiers i = m → ∀ {n : Notifier},
      placeOf s.buckets n = placeOf s.buckets m → (s.goto i n).service = s.service :=
    fun hpc _ hsame => service_goto_quiet (hsame.trans (service_places hpc).symm)
  unfold notifierShows at hshows
  unfold notifierStep at hstep
  split at hstep
  next => exact absurd hstep (by simp)
  next call hpc =>
    obtain rfl := Option.some.inj hstep
    rw [hpc] at hshows
    by_cases hflag : s.channelSetup = true
    · rw [if_pos hflag]
      exact Matched.stays (hshows.trans (if_pos hflag)) (hquiet hpc rfl)
    · rw [if_neg hflag]
      have hshows := hshows.trans (if_neg hflag)
      obtain ⟨hrefuse, hseen⟩ := service_refuse reason (service_places hpc)
        ntSuccess_statusNotSupported
      exact Matched.moves hrefuse (hseen.trans hshows.symm) service_goto
  next call hpc =>
    rw [hpc] at hshows
    unfold exAcquireRundownProtection at hstep
    by_cases hactive : s.gChannelRundown.active = true
    · rw [if_pos hactive] at hstep
      have hshows := hshows.trans (if_pos hactive)
      obtain rfl := Option.some.inj hstep
      obtain ⟨hrefuse, hseen⟩ := service_refuse reason (service_places hpc)
        (by decide : ntSuccess statusDeletePending = false)
      exact Matched.moves hrefuse (hseen.trans hshows.symm) service_goto
    · rw [if_neg hactive] at hstep
      obtain rfl := Option.some.inj hstep
      exact Matched.stays (hshows.trans (if_neg hactive)) (hquiet hpc (n := .scanning call) rfl)
  next call hpc =>
    rw [hpc] at hshows
    split at hstep
    next =>
      obtain rfl := Option.some.inj hstep
      exact Matched.stays hshows (hquiet hpc rfl)
    next =>
      obtain rfl := Option.some.inj hstep
      exact Matched.stays hshows (hquiet hpc rfl)
  next call freeIndex hpc =>
    obtain rfl := Option.some.inj hstep
    rw [hpc] at hshows
    refine Matched.stays hshows (hquiet hpc ?_)
    split
    next => rfl
    next => rfl
  next call bucket hpc =>
    -- the number is drawn, and the call is posted
    obtain rfl := Option.some.inj hstep
    rw [hpc] at hshows
    have hopen : s.service.shut = false := h.rundown.not_drained (i := i) (by rw [hpc]; rfl)
    refine Matched.moves (service_post reason (service_places hpc) hopen) hshows.symm ?_
    exact service_goto
  next call bucket uniqueId stores hpc =>
    rw [hpc] at hshows
    have hothers := h.buckets.alone (i := i) (b := bucket) (by rw [hpc]; rfl)
    have hplace := service_places hpc
    split at hstep
    next =>
      obtain rfl := Option.some.inj hstep
      refine Matched.stays hshows ((service_setBucket_goto hothers).trans ?_)
      exact (congrArg _ hplace.symm).trans (Service.goto_self _ i)
    next =>
      obtain rfl := Option.some.inj hstep
      have hexpects := h.contents.held i bucket (by rw [hpc]; rfl)
      rw [hpc] at hexpects
      refine Matched.stays hshows ((service_setBucket_goto hothers).trans ?_)
      have hposted : placeOf (Function.update s.buckets bucket
          { s.buckets bucket with highEvent := true }) (.waiting call bucket uniqueId)
            = .posted call uniqueId := by
        simp [placeOf, hexpects.1.lowEvent, hexpects.1.serving]
      rw [hposted]
      exact (congrArg _ hplace.symm).trans (Service.goto_self _ i)
  next call bucket uniqueId hpc =>
    rw [hpc] at hshows
    dsimp only at hstep
    split at hstep
    next hlow =>
      obtain rfl := Option.some.inj hstep
      have hothers := h.buckets.alone (i := i) (b := bucket) (by rw [hpc]; rfl)
      refine Matched.stays hshows ((service_setBucket_goto hothers).trans ?_)
      have hdone : placeOf (Function.update s.buckets bucket
          { s.buckets bucket with lowEvent := false }) (.woken call bucket)
            = s.service.places i := by
        rw [service_places hpc]
        simp [placeOf, hlow]
      rw [hdone]
      exact Service.goto_self _ i
    next => exact absurd hstep (by simp)
  next call bucket hpc =>
    obtain rfl := Option.some.inj hstep
    rw [hpc] at hshows
    exact Matched.stays hshows (hquiet hpc rfl)
  next call bucket action hpc =>
    obtain rfl := Option.some.inj hstep
    rw [hpc] at hshows
    exact Matched.stays hshows (hquiet hpc (n := .leaving call (some action)) rfl)
  next call action hpc =>
    obtain rfl := Option.some.inj hstep
    rw [hpc] at hshows
    cases action with
    | none =>
      obtain ⟨hrefuse, hseen⟩ := service_refuse reason (service_places hpc)
        ntSuccess_statusInsufficientResources
      exact Matched.moves hrefuse (hseen.trans hshows.symm) service_goto
    | some action =>
      obtain ⟨hfinish, hseen⟩ := service_finish reason (service_places hpc)
      exact Matched.moves hfinish (hseen.trans hshows.symm) service_goto

/-- A sender that waits, with the helper at its bucket. -/
theorem placeOf_serving {call : NotificationCall} {uniqueId : UInt64}
    (hpc : s.notifiers i = .waiting call b uniqueId) (hp : (s.buckets b).Pending call uniqueId)
    (hserving : (s.buckets b).serving = true) : s.service.places i = .served call uniqueId := by
  have hlow : (s.buckets b).lowEvent = false := by
    have hturn := hp.turn
    rw [hserving] at hturn
    exact (by simpa using hturn : _ ∧ _).2
  rw [service_places hpc]
  simp [placeOf, hlow, hserving]

/-- Nobody inside is nobody in progress. -/
theorem not_inProgress {buckets : Nat → Bucket} (h : n.inside = none) :
    ¬ (placeOf buckets n).inProgress := by
  cases n with
  | idle | called call | tested call => exact id
  | _ => exact absurd h (by simp [Notifier.inside])

/-- **A step of the closing thread is matched.** -/
theorem closure_matched (h : NotifyInv reason s) (hstep : closureStep reason s = some s') :
    Matched reason s s' .close := by
  -- but for the step that finds nobody inside, the service is the same
  have hkept : ∀ {c : Closure}, s.closure = c → ∀ {t : Notifying},
      t.closure.drained = c.drained → t.uniqueId = s.uniqueId →
      t.notifiers = s.notifiers → t.buckets = s.buckets → t.service = s.service := by
    intro c hc t hsame hid hnotifiers hbuckets
    unfold Notifying.service
    rw [hsame, ← hc, hid, hnotifiers, hbuckets]
  unfold closureStep at hstep
  split at hstep
  next hpc =>
    obtain rfl := Option.some.inj hstep
    exact Matched.stays rfl (hkept hpc rfl rfl rfl rfl)
  next hpc =>
    split at hstep
    next hzero =>
      -- nobody is inside any more
      have hclosed := h.rundown.closure
        (show closureStep reason s = some { s with closure := .released } by
          simp only [closureStep, hpc, if_pos hzero])
      obtain rfl := Option.some.inj hstep
      have hnobody : ∀ j, ¬ (s.service.places j).inProgress :=
        fun j => not_inProgress (hclosed.drained rfl j)
      exact Matched.moves (service_shutDown reason hnobody) rfl rfl
    next => exact absurd hstep (by simp)
  next hpc =>
    obtain rfl := Option.some.inj hstep
    exact Matched.stays rfl (hkept hpc rfl rfl rfl rfl)
  next hpc =>
    obtain rfl := Option.some.inj hstep
    exact Matched.stays rfl (hkept hpc rfl rfl rfl rfl)
  next idx hpc =>
    have hnone := h.rundown.no_bucket (by rw [hpc]; rfl)
    split at hstep
    next =>
      obtain rfl := Option.some.inj hstep
      exact Matched.stays rfl (service_closing (fun j => hnone j idx) (by rw [hpc]; rfl))
    next =>
      obtain rfl := Option.some.inj hstep
      exact Matched.stays rfl (hkept hpc rfl rfl rfl rfl)
  next idx hpc =>
    have hnone := h.rundown.no_bucket (by rw [hpc]; rfl)
    obtain rfl := Option.some.inj hstep
    exact Matched.stays rfl (service_closing (fun j => hnone j idx) (by rw [hpc]; rfl))
  next hpc =>
    obtain rfl := Option.some.inj hstep
    exact Matched.stays rfl (hkept hpc rfl rfl rfl rfl)
  next => exact absurd hstep (by simp)

/-- **Every step is matched** by the service. -/
theorem notify_simulates (reason : UInt32) :
    Simulates (notifySystem reason) (notificationService reason) (ServedAs reason) := by
  intro s t action s' hrel hstep
  obtain ⟨h, rfl⟩ := hrel
  suffices hmatched : Matched reason s s' action by
    obtain ⟨bs, t', hrun, htrace, hservice⟩ := hmatched
    exact ⟨bs, t', hrun, htrace, h.step hstep, hservice⟩
  cases action with
  | call i call =>
    simp only [notifySystem] at hstep
    split at hstep
    next hidle =>
      obtain rfl := Option.some.inj hstep
      exact Matched.moves (service_call reason (service_places hidle)) rfl service_goto
    next => exact absurd hstep (by simp)
  | goOn i => exact notifier_matched h hstep
  | helperTakes b =>
    simp only [notifySystem] at hstep
    split at hstep
    next hturn =>
      obtain rfl := Option.some.inj hstep
      rcases h.turn (Or.inl hturn.1) with ⟨i, call, uniqueId, hpc, hp⟩ | ⟨hnone, _, _⟩
      · have hrest : (s.buckets b).serving = false ∧ (s.buckets b).lowEvent = false := by
          have hturns := hp.turn
          rw [hturn.1] at hturns
          simpa using hturns
        have hposted : s.service.places i = .posted call uniqueId := by
          rw [service_places hpc]
          simp [placeOf, hrest.1, hrest.2]
        refine Matched.moves (service_take reason hposted) rfl ?_
        rw [service_setBucket (h.buckets.alone (by rw [hpc]; rfl)), hpc]
        congr 1
        simp [placeOf, hrest.2]
      · exact Matched.stays rfl (service_setBucket_free hnone)
    next => exact absurd hstep (by simp)
  | helperReads b =>
    simp only [notifySystem] at hstep
    split at hstep
    next hturn =>
      obtain rfl := Option.some.inj hstep
      rcases h.turn (Or.inr hturn.1) with ⟨i, call, uniqueId, hpc, hp⟩ | ⟨_, hdrained, htold⟩
      · obtain ⟨hhear, hseen⟩ := service_hear reason
          (placeOf_serving hpc hp hturn.1)
        refine Matched.moves hhear (hseen.trans ?_) rfl
        exact congrArg (fun message => some (NotifyEvent.heard message)) hp.message.symm
      · refine Matched.moves (service_terminate reason hdrained) ?_ rfl
        exact congrArg (fun message => some (NotifyEvent.heard message)) htold.symm
    next => exact absurd hstep (by simp)
  | helperDecides b action =>
    simp only [notifySystem] at hstep
    split at hstep
    next hturn =>
      obtain rfl := Option.some.inj hstep
      rcases h.turn (Or.inr hturn.1) with ⟨i, call, uniqueId, hpc, hp⟩ | ⟨hnone, _, _⟩
      · have hserved := placeOf_serving hpc hp hturn.1
        have hlow : (s.buckets b).lowEvent = false := by
          have hturns := hp.turn
          rw [hturn.1] at hturns
          exact (by simpa using hturns : _ ∧ _).2
        refine Matched.stays rfl ?_
        rw [service_setBucket (h.buckets.alone (by rw [hpc]; rfl)), hpc]
        refine (congrArg _ ?_).trans (Service.goto_self _ i)
        rw [hserved]
        simp [placeOf, hlow, hturn.1]
      · exact Matched.stays rfl (service_setBucket_free hnone)
    next => exact absurd hstep (by simp)
  | helperAnswers b =>
    simp only [notifySystem] at hstep
    split at hstep
    next hturn =>
      obtain rfl := Option.some.inj hstep
      have hshows : (notifySystem reason).shows s (.helperAnswers b)
          = answerShows (s.buckets b).data := rfl
      unfold answerShows at hshows
      rcases h.turn (Or.inr hturn.1) with ⟨i, call, uniqueId, hpc, hp⟩ | ⟨hnone, _, htold⟩
      · rw [hp.message] at hshows
        obtain ⟨hanswer, hseen⟩ := service_answer reason
          ((s.buckets b).data.load32 bucketAction) (placeOf_serving hpc hp hturn.1)
        refine Matched.moves hanswer (hseen.trans hshows.symm) ?_
        rw [service_setBucket (h.buckets.alone (by rw [hpc]; rfl)), hpc]
        congr 1
        simp [placeOf]
      · rw [htold] at hshows
        exact Matched.stays hshows (service_setBucket_free hnone)
    next => exact absurd hstep (by simp)
  | close => exact closure_matched h hstep

end Simulation

/-- **The channel is the notification service**: whatever any number of senders, the helper and
the closing thread do, access by access and in whatever order, what is called, read, answered
and returned is what the service could show. So the helper reads each notification whole and
with its own number, its answer goes to the caller of that notification, and it is told to
terminate only when no notification is under way. -/
theorem notifications_delivered (reason : UInt32) {actions : List NotifyAction} {s : Notifying}
    (hrun : (notifySystem reason).run .initial actions = some s) :
    ∃ bs t, (notificationService reason).run .initial bs = some t ∧
      (notificationService reason).trace .initial bs
        = (notifySystem reason).trace .initial actions := by
  have hstart : ServedAs reason .initial .initial := ⟨notifyInv_initial reason, rfl⟩
  obtain ⟨bs, t, hbs, htrace, _⟩ := Simulates.run (notify_simulates reason) hstart hrun
  exact ⟨bs, t, hbs, htrace⟩

/-- A timer abuse of thread 8 of process 4. -/
def timerAbuseCall : NotificationCall where
  processId := 4
  threadId := 8
  type := 1
  data := ⟨List.replicate sizeofTscInformation 0x90, List.length_replicate⟩

/-- The call from its beginning to its return, with the helper's answer in between. -/
def deniedCall : List NotifyAction :=
  .call 0 timerAbuseCall :: List.replicate 13 (.goOn 0) ++
    [.helperTakes 15, .helperReads 15, .helperDecides 15 2, .helperAnswers 15] ++
    List.replicate 4 (.goOn 0)

/-- The service shows the same call, read and answered as the first one. -/
theorem notifications_delivered_denied :
    ∃ bs t, (notificationService 1).run .initial bs = some t ∧
      (notificationService 1).trace .initial bs =
        [.called 0 timerAbuseCall, .heard (.notification 1 0 timerAbuseCall), .answered 1 2,
          .returned 0 timerAbuseCall statusSuccess (some 2)] := by
  obtain ⟨s, hrun⟩ : ∃ s, (notifySystem 1).run .initial deniedCall = some s := ⟨_, rfl⟩
  obtain ⟨bs, t, hbs, htrace⟩ := notifications_delivered 1 hrun
  exact ⟨bs, t, hbs, htrace.trans (by decide +kernel)⟩

end DeepShield.Channel
