/-
Accounting of the refresh quota: what every interleaving of calls keeps of the
stored document, of its windows, and of the operations answered as allowed.
-/
import Mathlib.Data.Finset.Card
import TcoCalculator.Persistence.RefreshQuota

namespace TcoCalculator.RefreshQuota

open PricingCache PricingCache.RefreshQuotaDocument Rfc3339 Transition

/-! ### The store -/

/-- A document stored as the last one of a window. -/
def QuotaStore.put (s : QuotaStore) (window : Nat) (document : RefreshQuotaDocument) :
    QuotaStore :=
  { s with
    cell := s.cell.put (window, document) s.clock.nanos
    windows := Function.update s.windows window (some document) }

theorem QuotaStore.put_windows_self (s : QuotaStore) (window : Nat)
    (document : RefreshQuotaDocument) :
    (s.put window document).windows window = some document :=
  Function.update_self _ _ _

theorem QuotaStore.put_windows_of_ne (s : QuotaStore) {window other : Nat}
    (h : other ≠ window) (document : RefreshQuotaDocument) :
    (s.put window document).windows other = s.windows other :=
  Function.update_of_ne h _ _

theorem QuotaStore.put_windows_eq_some {s : QuotaStore} {window other : Nat}
    {document found : RefreshQuotaDocument}
    (h : (s.put window document).windows other = some found) :
    (other = window ∧ document = found) ∨ (other ≠ window ∧ s.windows other = some found) := by
  by_cases hsame : other = window
  · subst hsame
    rw [s.put_windows_self] at h
    exact .inl ⟨rfl, Option.some.inj h⟩
  · rw [s.put_windows_of_ne hsame] at h
    exact .inr ⟨hsame, h⟩

/-- What the calls, the clock and the lifetime can do to the store. -/
inductive QuotaStore.Next (s : QuotaStore) : QuotaStore → Prop
  | same : Next s s
  | tick {now : UtcDateTime} (later : s.clock ≤ now) : Next s { s with clock := now }
  | expire {cell : EtagCell (Nat × RefreshQuotaDocument)}
      (dropped : s.cell.expire quotaTtl s.clock.nanos = some cell) : Next s { s with cell }
  | open {identitySha256 operationToken : String} {limit : Nat} {reading : UtcDateTime}
      {candidate : RefreshQuotaDocument}
      (opened : RefreshQuotaDocument.new identitySha256 operationToken limit reading =
        .ok candidate)
      (past : reading ≤ s.clock)
      (free : ∀ item, s.cell.item = some item → item.value.2.EndedBy s.clock.nanos) :
      Next s (s.put s.cell.nextEtag candidate)
  | count {item : EtagItem (Nat × RefreshQuotaDocument)} {updated : RefreshQuotaDocument}
      {operationToken : String} {limit : Nat} {reading : UtcDateTime}
      (stored : s.cell.item = some item)
      (counts : Counts item.value.2 updated operationToken limit reading)
      (begun : item.value.2.StartedBy reading.nanos) (past : reading ≤ s.clock) :
      Next s (s.put item.value.1 updated)
  | allow {window : Nat} {document : RefreshQuotaDocument} {operationToken : String}
      (counted : s.windows window = some document)
      (recorded : operationToken ∈ document.operationTokens) :
      Next s { s with allowed := (window, operationToken) :: s.allowed }

/-- What is known of the stored document. -/
structure QuotaStore.ItemValid (s : QuotaStore)
    (item : EtagItem (Nat × RefreshQuotaDocument)) : Prop where
  current : s.windows item.value.1 = some item.value.2
  newest : ∀ window document, s.windows window = some document → window ≤ item.value.1
  written : item.writtenAt ≤ s.clock.nanos
  begun : item.value.2.StartedBy item.writtenAt
  lasting : item.value.2.EndedBy (item.writtenAt + quotaTtl item.value)

/-- What is known of a window: its last document, and that it is either the
stored one or over. -/
structure QuotaStore.WindowValid (s : QuotaStore) (window : Nat)
    (document : RefreshQuotaDocument) : Prop where
  issued : window < s.cell.nextEtag
  valid : document.validate = .ok ()
  storedOrEnded : (∃ item, s.cell.item = some item ∧ item.value.1 = window) ∨
    document.EndedBy s.clock.nanos

structure QuotaStore.Valid (s : QuotaStore) : Prop where
  tags : s.cell.TagsIssued
  item : ∀ item, s.cell.item = some item → s.ItemValid item
  window : ∀ window document, s.windows window = some document →
    s.WindowValid window document
  allowed : ∀ window operationToken, (window, operationToken) ∈ s.allowed →
    ∃ document, s.windows window = some document ∧
      operationToken ∈ document.operationTokens

/-- A later document of the same window. -/
structure Continues (document document' : RefreshQuotaDocument) : Prop where
  tokens : document.operationTokens ⊆ document'.operationTokens
  sameLimit : document'.limit = document.limit
  sameEnd : document'.expiresAt = document.expiresAt

theorem Continues.refl (document : RefreshQuotaDocument) : Continues document document :=
  ⟨List.Subset.refl _, rfl, rfl⟩

theorem Continues.of_counts {current updated : RefreshQuotaDocument} {operationToken : String}
    {limit : Nat} {now : UtcDateTime}
    (h : Counts current updated operationToken limit now) : Continues current updated :=
  ⟨h.tokens ▸ List.subset_append_left _ _, h.sameLimit, h.sameEnd⟩

theorem Continues.endedBy {document document' : RefreshQuotaDocument}
    (h : Continues document document') {instant : Int} (hended : document.EndedBy instant) :
    document'.EndedBy instant := by
  obtain ⟨expires, hparse, hle⟩ := hended
  exact ⟨expires, h.sameEnd ▸ hparse, hle⟩

/-- Facts about an earlier store that stay true. -/
structure QuotaStore.Later (s s' : QuotaStore) : Prop where
  clock : s.clock ≤ s'.clock
  observed : ∀ value etag, s.cell.Observed value etag → s'.cell.Observed value etag
  windows : ∀ window document, s.windows window = some document →
    ∃ document', s'.windows window = some document' ∧ Continues document document'
  allowed : s.allowed ⊆ s'.allowed

theorem QuotaStore.Later.refl (s : QuotaStore) : s.Later s :=
  ⟨le_rfl, fun _ _ h => h, fun _ document h => ⟨document, h, .refl document⟩,
    List.Subset.refl _⟩

theorem QuotaStore.Later.trans {s s' s'' : QuotaStore} (h : s.Later s') (h' : s'.Later s'') :
    s.Later s'' := by
  refine ⟨h.clock.trans h'.clock, fun value etag hobserved =>
    h'.observed value etag (h.observed value etag hobserved), ?_,
    List.Subset.trans h.allowed h'.allowed⟩
  intro window document hwindow
  obtain ⟨document', hwindow', hcontinues⟩ := h.windows window document hwindow
  obtain ⟨document'', hwindow'', hcontinues'⟩ := h'.windows window document' hwindow'
  exact ⟨document'', hwindow'', List.Subset.trans hcontinues.tokens hcontinues'.tokens,
    hcontinues'.sameLimit.trans hcontinues.sameLimit,
    hcontinues'.sameEnd.trans hcontinues.sameEnd⟩

theorem QuotaStore.Next.later {s s' : QuotaStore} (hvalid : s.Valid) (h : s.Next s') :
    s.Later s' := by
  have hsame : ∀ window document, s.windows window = some document →
      ∃ document', s.windows window = some document' ∧ Continues document document' :=
    fun _ document hwindow => ⟨document, hwindow, .refl document⟩
  cases h with
  | same => exact .refl s
  | tick later => exact ⟨later, fun _ _ h => h, hsame, List.Subset.refl _⟩
  | expire dropped =>
      obtain ⟨_, -, -, rfl⟩ := EtagCell.expire_eq_some dropped
      exact ⟨le_rfl, fun _ _ h => h.dropped, hsame, List.Subset.refl _⟩
  | @«open» identitySha256 operationToken limit reading candidate opened past free =>
      refine ⟨le_rfl, fun _ _ h => h.put _ _, ?_, List.Subset.refl _⟩
      intro window document hwindow
      have hne : window ≠ s.cell.nextEtag :=
        Nat.ne_of_lt (hvalid.window window document hwindow).issued
      exact ⟨document, (s.put_windows_of_ne hne _).trans hwindow, .refl document⟩
  | @count item updated operationToken limit reading stored counts begun past =>
      refine ⟨le_rfl, fun _ _ h => h.put _ _, ?_, List.Subset.refl _⟩
      intro window document hwindow
      by_cases hsame : window = item.value.1
      · subst hsame
        have hcurrent := (hvalid.item item stored).current
        obtain rfl : item.value.2 = document := Option.some.inj (hcurrent.symm.trans hwindow)
        exact ⟨updated, s.put_windows_self _ _, .of_counts counts⟩
      · exact ⟨document, (s.put_windows_of_ne hsame _).trans hwindow, .refl document⟩
  | allow => exact ⟨le_rfl, fun _ _ h => h, hsame, List.subset_cons_self _ _⟩

/-- Recorded answers stay backed by the document of their window. -/
theorem QuotaStore.Valid.allowed_later {s s' : QuotaStore} (h : s.Valid) (hlater : s.Later s')
    {window : Nat} {operationToken : String} (hmem : (window, operationToken) ∈ s.allowed) :
    ∃ document, s'.windows window = some document ∧
      operationToken ∈ document.operationTokens := by
  obtain ⟨document, hwindow, hrecorded⟩ := h.allowed window operationToken hmem
  obtain ⟨document', hwindow', hcontinues⟩ := hlater.windows window document hwindow
  exact ⟨document', hwindow', hcontinues.tokens hrecorded⟩

theorem QuotaStore.Valid.next {s s' : QuotaStore} (h : s.Valid) (hnext : s.Next s') :
    s'.Valid := by
  have hlater := hnext.later h
  cases hnext with
  | same => exact h
  | tick later =>
      refine ⟨h.tags, ?_, ?_, h.allowed⟩
      · intro item hitem
        have hvalid := h.item item hitem
        exact ⟨hvalid.current, hvalid.newest, hvalid.written.trans later, hvalid.begun,
          hvalid.lasting⟩
      · intro window document hwindow
        have hvalid := h.window window document hwindow
        exact ⟨hvalid.issued, hvalid.valid, hvalid.storedOrEnded.imp_right fun hover => hover.later later⟩
  | expire dropped =>
      obtain ⟨item, hitem, hdue, rfl⟩ := EtagCell.expire_eq_some dropped
      refine ⟨EtagCell.TagsIssued.dropped _, fun _ hnone => (nomatch hnone), ?_, h.allowed⟩
      intro window document hwindow
      have hvalid := h.window window document hwindow
      refine ⟨hvalid.issued, hvalid.valid, .inr ?_⟩
      rcases hvalid.storedOrEnded with ⟨stored, hstored, rfl⟩ | hover
      · -- the stored window is over: its lifetime reaches its end
        obtain rfl : item = stored := Option.some.inj (hitem.symm.trans hstored)
        have hcurrent := (h.item item hitem).current
        obtain rfl : item.value.2 = document := Option.some.inj (hcurrent.symm.trans hwindow)
        exact (h.item item hitem).lasting.later hdue
      · exact hover
  | @«open» identitySha256 operationToken limit reading candidate opened past free =>
      obtain ⟨hvalid, -, -, httl, hstarted⟩ := new_eq_ok opened
      obtain ⟨started, expires, hstarted', hexpires, hlength⟩ := validate_window hvalid
      rw [hstarted] at hstarted'
      cases hstarted'
      have hpast : reading.nanos ≤ s.clock.nanos := past
      refine ⟨EtagCell.TagsIssued.put _ _, ?_, ?_, fun _ _ => h.allowed_later hlater⟩
      · rintro item ⟨⟩
        refine ⟨s.put_windows_self _ _, ?_, le_rfl, ⟨_, hstarted, hpast⟩, expires,
          hexpires, ?_⟩
        · intro window document hwindow
          rcases QuotaStore.put_windows_eq_some hwindow with ⟨rfl, -⟩ | ⟨-, hold⟩
          · exact le_rfl
          · exact (h.window window document hold).issued.le
        · simp only [quotaTtl, httl, hlength]
          omega
      · intro window document hwindow
        rcases QuotaStore.put_windows_eq_some hwindow with ⟨rfl, rfl⟩ | ⟨-, hold⟩
        · exact ⟨Nat.lt_succ_self _, hvalid, .inl ⟨_, rfl, rfl⟩⟩
        · have hbefore := h.window window document hold
          refine ⟨Nat.lt_succ_of_lt hbefore.issued, hbefore.valid, .inr ?_⟩
          rcases hbefore.storedOrEnded with ⟨item, hitem, rfl⟩ | hover
          · have hcurrent := (h.item item hitem).current
            obtain rfl : item.value.2 = document := Option.some.inj (hcurrent.symm.trans hold)
            exact free item hitem
          · exact hover
  | @count item updated operationToken limit reading stored counts begun past =>
      have hitem := h.item item stored
      have hpast : reading.nanos ≤ s.clock.nanos := past
      obtain ⟨started, hstarted, hbegun⟩ := begun
      refine ⟨EtagCell.TagsIssued.put _ _, ?_, ?_, fun _ _ => h.allowed_later hlater⟩
      · rintro written ⟨⟩
        refine ⟨s.put_windows_self _ _, ?_, le_rfl,
          ⟨started, counts.sameStart ▸ hstarted, hbegun.trans hpast⟩, ?_⟩
        · intro window document hwindow
          rcases QuotaStore.put_windows_eq_some hwindow with ⟨rfl, -⟩ | ⟨-, hold⟩
          · exact le_rfl
          · exact hitem.newest window document hold
        · apply (counts.lasting ⟨started, hstarted, hbegun⟩).later
          simp only [quotaTtl]
          omega
      · intro window document hwindow
        rcases QuotaStore.put_windows_eq_some hwindow with ⟨rfl, rfl⟩ | ⟨hother, hold⟩
        · exact ⟨Nat.lt_succ_of_lt (h.window _ _ hitem.current).issued, counts.valid,
            .inl ⟨_, rfl, rfl⟩⟩
        · have hbefore := h.window window document hold
          refine ⟨Nat.lt_succ_of_lt hbefore.issued, hbefore.valid, .inr ?_⟩
          rcases hbefore.storedOrEnded with ⟨current, hcurrent, rfl⟩ | hover
          · obtain rfl : item = current := Option.some.inj (stored.symm.trans hcurrent)
            exact absurd rfl hother
          · exact hover
  | @allow window document operationToken counted recorded =>
      refine ⟨h.tags, fun item hitem => ?_, fun window document hwindow => ?_, ?_⟩
      · have hvalid := h.item item hitem
        exact ⟨hvalid.current, hvalid.newest, hvalid.written, hvalid.begun, hvalid.lasting⟩
      · have hvalid := h.window window document hwindow
        exact ⟨hvalid.issued, hvalid.valid, hvalid.storedOrEnded⟩
      · intro answered token hmem
        rcases List.mem_cons.mp hmem with hnew | hold
        · cases hnew
          exact ⟨document, counted, recorded⟩
        · exact h.allowed answered token hold

/-! ### The calls -/

/-- A document read under a tag, valid and of a window that has begun. -/
structure Knows (s : QuotaStore) (window : Nat) (current : RefreshQuotaDocument)
    (etag : Nat) : Prop where
  observed : s.cell.Observed (window, current) etag
  valid : current.validate = .ok ()
  begun : current.StartedBy s.clock.nanos
  counted : ∃ document, s.windows window = some document ∧ Continues current document

def ConsumeValid (s : QuotaStore) (identitySha256 operationToken : String) (limit : Nat) :
    ConsumeState → Prop
  | .create _ candidate => ∃ reading,
      RefreshQuotaDocument.new identitySha256 operationToken limit reading = .ok candidate ∧
        reading ≤ s.clock
  | .consume _ window current etag => Knows s window current etag
  | .replace _ target updated etag => ∃ window current reading,
      Knows s window current etag ∧ reading ≤ s.clock ∧ current.StartedBy reading.nanos ∧
        ((target = some window ∧ Counts current updated operationToken limit reading) ∨
          (target = none ∧
            Resets current updated identitySha256 operationToken limit reading))
  | .done (.ok .allowed) => ∃ window, (window, operationToken) ∈ s.allowed
  | _ => True

def ProcessValid (identitySha256 : String) (s : QuotaStore) (process : Process) : Prop :=
  ConsumeValid s identitySha256 process.operationToken process.limit process.state

theorem Knows.later {s s' : QuotaStore} {window etag : Nat} {current : RefreshQuotaDocument}
    (h : Knows s window current etag) (hlater : s.Later s') : Knows s' window current etag := by
  obtain ⟨document, hwindow, hcontinues⟩ := h.counted
  obtain ⟨document', hwindow', hcontinues'⟩ := hlater.windows window document hwindow
  exact ⟨hlater.observed _ _ h.observed, h.valid, h.begun.later hlater.clock, document',
    hwindow', List.Subset.trans hcontinues.tokens hcontinues'.tokens,
    hcontinues'.sameLimit.trans hcontinues.sameLimit,
    hcontinues'.sameEnd.trans hcontinues.sameEnd⟩

/-- What a call knows stays true while other calls run. -/
theorem ConsumeValid.later {s s' : QuotaStore} {identitySha256 operationToken : String}
    {limit : Nat} {state : ConsumeState}
    (h : ConsumeValid s identitySha256 operationToken limit state) (hlater : s.Later s') :
    ConsumeValid s' identitySha256 operationToken limit state := by
  rcases state with _ | _ | _ | ⟨_, candidate⟩ | ⟨_, window, current, etag⟩ |
    ⟨_, target, updated, etag⟩ | (_ | _ | _) | _
  · trivial
  · trivial
  · trivial
  · obtain ⟨reading, hnew, hpast⟩ := h
    exact ⟨reading, hnew, hpast.trans hlater.clock⟩
  · exact Knows.later h hlater
  · obtain ⟨window, current, reading, hknows, hpast, hrest⟩ := h
    exact ⟨window, current, reading, hknows.later hlater, hpast.trans hlater.clock, hrest⟩
  · trivial
  · obtain ⟨window, hallowed⟩ := h
    exact ⟨window, hlater.allowed hallowed⟩
  · trivial
  · trivial

theorem consumeValid_attempt (s : QuotaStore) (identitySha256 operationToken : String)
    (limit left : Nat) : ConsumeValid s identitySha256 operationToken limit (.attempt left) := by
  cases left <;> trivial

theorem consumeValid_started (s : QuotaStore) (identitySha256 : String) (process : Process)
    (now : UtcDateTime) :
    ConsumeValid s identitySha256 process.operationToken process.limit
      (consumeStarted identitySha256 process now) := by
  unfold consumeStarted
  split
  · apply consumeValid_attempt
  · trivial
  · trivial

theorem consumeValid_read {s : QuotaStore} (hstore : s.Valid)
    (identitySha256 operationToken : String) (limit left : Nat) :
    ConsumeValid s identitySha256 operationToken limit (consumeRead left s.cell.item) := by
  cases hitem : s.cell.item with
  | none => trivial
  | some item =>
      have hvalid := hstore.item item hitem
      have hdocument := (hstore.window _ _ hvalid.current).valid
      simp only [consumeRead, hdocument]
      exact ⟨EtagCell.Observed.of_item hstore.tags hitem, hdocument,
        hvalid.begun.later hvalid.written, item.value.2, hvalid.current, .refl _⟩

theorem consumeValid_opened (s : QuotaStore) (identitySha256 : String) (process : Process)
    (left : Nat) :
    ConsumeValid s identitySha256 process.operationToken process.limit
      (consumeOpened identitySha256 process left s.clock) := by
  unfold consumeOpened
  split
  · rename_i candidate hnew
    exact ⟨s.clock, hnew, le_rfl⟩
  · trivial
  · trivial

theorem windowOf_counts {current updated : RefreshQuotaDocument} {operationToken : String}
    {limit : Nat} {now : UtcDateTime} (window : Nat)
    (h : Counts current updated operationToken limit now) :
    windowOf window current updated = some window := by
  simp [windowOf, h.tokens]

theorem windowOf_resets {current updated : RefreshQuotaDocument}
    {identitySha256 operationToken : String} {limit : Nat} {now : UtcDateTime} (window : Nat)
    (hvalid : current.validate = .ok ())
    (h : Resets current updated identitySha256 operationToken limit now) :
    windowOf window current updated = none := by
  obtain ⟨-, htokens, -⟩ := new_eq_ok h.opened
  obtain ⟨hnonempty, -⟩ := validate_count hvalid
  rw [windowOf, if_neg]
  rw [htokens]
  intro htake
  obtain ⟨token, hmem⟩ := List.exists_mem_of_ne_nil _ hnonempty
  have hrecorded := List.mem_of_mem_take (htake.symm ▸ hmem)
  rw [List.mem_singleton] at hrecorded
  exact h.fresh (hrecorded ▸ hmem)

theorem recordAllowed_of_ne {s : QuotaStore} {window : Nat} {operationToken : String}
    {state : ConsumeState} (h : state ≠ .done (.ok .allowed)) :
    s.recordAllowed window operationToken state = s :=
  if_neg h

/-- A decision made on a document read before. -/
theorem consumeDecided_valid {s : QuotaStore} (hstore : s.Valid) {identitySha256 : String}
    {process : Process} {left window etag : Nat} {current : RefreshQuotaDocument}
    (hknows : Knows s window current etag) {state : ConsumeState}
    (h : consumeDecided identitySha256 process left window current etag s.clock = state) :
    (s.recordAllowed window process.operationToken state).Valid ∧
      s.Later (s.recordAllowed window process.operationToken state) ∧
      ConsumeValid (s.recordAllowed window process.operationToken state) identitySha256
        process.operationToken process.limit state := by
  unfold consumeDecided at h
  split at h
  · subst h
    rw [recordAllowed_of_ne (by simp)]
    exact ⟨hstore, .refl s, trivial⟩
  · subst h
    rw [recordAllowed_of_ne (by simp)]
    exact ⟨hstore, .refl s, trivial⟩
  · rename_i hconsume
    subst h
    obtain ⟨document, hwindow, hcontinues⟩ := hknows.counted
    have hnext : s.Next (s.recordAllowed window process.operationToken (.done (.ok .allowed))) :=
      .allow hwindow (hcontinues.tokens (consume_eq_ok hconsume))
    exact ⟨hstore.next hnext, hnext.later hstore, window, List.mem_cons_self⟩
  · subst h
    rw [recordAllowed_of_ne (by simp)]
    exact ⟨hstore, .refl s, trivial⟩
  · rename_i updated hconsume
    split at h
    · subst h
      rw [recordAllowed_of_ne (by simp)]
      exact ⟨hstore, .refl s, trivial⟩
    · subst h
      rw [recordAllowed_of_ne (by simp)]
      refine ⟨hstore, .refl s, window, current, s.clock, hknows, le_rfl, hknows.begun, ?_⟩
      rcases consume_eq_ok hconsume with hcounts | hresets
      · exact .inl ⟨windowOf_counts window hcounts, hcounts⟩
      · exact .inr ⟨windowOf_resets window hknows.valid hresets, hresets⟩

/-! ### Writes and steps -/

/-- The limit of every window is a given one or known from before. -/
def LimitsFrom (s s' : QuotaStore) (limit : Nat) : Prop :=
  ∀ window document, s'.windows window = some document → document.limit = limit ∨
    ∃ before, s.windows window = some before ∧ before.limit = document.limit

theorem LimitsFrom.of_windows {s s' : QuotaStore} (h : s'.windows = s.windows) (limit : Nat) :
    LimitsFrom s s' limit :=
  fun _ document hwindow => .inr ⟨document, h ▸ hwindow, rfl⟩

/-- The store after a write, and what the caller learns from its report. -/
structure Written (s store : QuotaStore) (operationToken : String) (limit : Nat)
    (report : WriteReport) : Prop where
  valid : store.Valid
  later : s.Later store
  limits : LimitsFrom s store limit
  recorded : report = .ok → ∃ window, (window, operationToken) ∈ store.allowed

theorem writeWindow_written {s store : QuotaStore} (hstore : s.Valid)
    {precondition : Precondition} {target : Option Nat} {document : RefreshQuotaDocument}
    {operationToken : String} {limit : Nat} {applied : Bool} {report : WriteReport}
    (hnext : s.cell.admits precondition = true →
      s.Next (s.put (target.getD s.cell.nextEtag) document))
    (hlimit : s.cell.admits precondition = true → document.limit = limit ∨
      ∃ before, s.windows (target.getD s.cell.nextEtag) = some before ∧
        before.limit = document.limit)
    (hmem : operationToken ∈ document.operationTokens)
    (h : s.writeWindow precondition target document operationToken applied report =
      some store) : Written s store operationToken limit report := by
  obtain ⟨cell, hwrite, hstored⟩ := Option.bind_eq_some_iff.mp h
  cases Option.some.inj hstored
  rcases EtagCell.write_eq_some hwrite with ⟨rfl, hadmits, rfl⟩ | ⟨rfl, hreport, rfl⟩
  · have hput := hnext hadmits
    have hlimits : LimitsFrom s (s.put (target.getD s.cell.nextEtag) document) limit := by
      intro window found hwindow
      rcases QuotaStore.put_windows_eq_some hwindow with ⟨rfl, rfl⟩ | ⟨-, hold⟩
      · exact hlimit hadmits
      · exact .inr ⟨found, hold, rfl⟩
    have hvalid := hstore.next hput
    by_cases hok : report = .ok
    · subst hok
      have hallow := QuotaStore.Next.allow
        (s.put_windows_self (target.getD s.cell.nextEtag) document) hmem
      exact ⟨hvalid.next hallow, (hput.later hstore).trans (hallow.later hvalid), hlimits,
        fun _ => ⟨_, List.mem_cons_self⟩⟩
    · simp only [if_neg hok, if_true]
      exact ⟨hvalid, hput.later hstore, hlimits, fun h => absurd h hok⟩
  · simp only [if_neg hreport]
    exact ⟨hstore, .refl s, .of_windows rfl limit, fun h => absurd h hreport⟩

theorem create_written {s store : QuotaStore} (hstore : s.Valid) {identitySha256 : String}
    {process : Process} {left : Nat} {candidate : RefreshQuotaDocument} {applied : Bool}
    {report : WriteReport}
    (hstate : ConsumeValid s identitySha256 process.operationToken process.limit
      (.create left candidate))
    (h : s.writeWindow .absent none candidate process.operationToken applied report =
      some store) : Written s store process.operationToken process.limit report := by
  obtain ⟨reading, hnew, hpast⟩ := hstate
  obtain ⟨-, htokens, hlimit, -⟩ := new_eq_ok hnew
  refine writeWindow_written hstore ?_ (fun _ => .inl hlimit) (by simp [htokens]) h
  intro hadmits
  apply QuotaStore.Next.open hnew hpast
  intro item hitem
  rw [EtagCell.admits_absent.mp hadmits] at hitem
  cases hitem

theorem replace_written {s store : QuotaStore} (hstore : s.Valid) {identitySha256 : String}
    {process : Process} {left etag : Nat} {target : Option Nat}
    {updated : RefreshQuotaDocument} {applied : Bool} {report : WriteReport}
    (hstate : ConsumeValid s identitySha256 process.operationToken process.limit
      (.replace left target updated etag))
    (h : s.writeWindow (.ifMatch etag) target updated process.operationToken applied report =
      some store) : Written s store process.operationToken process.limit report := by
  obtain ⟨window, current, reading, hknows, hpast, hbegun, hupdate⟩ := hstate
  rcases hupdate with ⟨rfl, hcounts⟩ | ⟨rfl, hresets⟩
  · refine writeWindow_written hstore ?_ ?_ (by simp [hcounts.tokens]) h
    · intro hadmits
      obtain ⟨item, hitem, -, hvalue⟩ := hknows.observed.admits hadmits
      obtain ⟨rfl, rfl⟩ := Prod.mk.inj hvalue.symm
      exact .count hitem hcounts hbegun hpast
    · intro _
      obtain ⟨document, hwindow, hcontinues⟩ := hknows.counted
      exact .inr ⟨document, hwindow, hcontinues.sameLimit.trans hcounts.sameLimit.symm⟩
  · obtain ⟨-, htokens, hlimit, -⟩ := new_eq_ok hresets.opened
    refine writeWindow_written hstore ?_ (fun _ => .inl hlimit) (by simp [htokens]) h
    intro hadmits
    apply QuotaStore.Next.open hresets.opened hpast
    intro item hitem
    obtain ⟨found, hfound, -, hvalue⟩ := hknows.observed.admits hadmits
    obtain rfl : item = found := Option.some.inj (hitem.symm.trans hfound)
    rw [hvalue]
    exact hresets.ended.later hpast

/-- A step of one call keeps the store and leaves the call in a valid state. -/
structure Advances (identitySha256 : String) (s s' : System) (pid : Nat)
    (process : Process) : Prop where
  store : s'.toQuotaStore.Valid
  later : s.toQuotaStore.Later s'.toQuotaStore
  limits : LimitsFrom s.toQuotaStore s'.toQuotaStore process.limit
  moved : ∃ state, ConsumeValid s'.toQuotaStore identitySha256 process.operationToken
      process.limit state ∧
    s'.processes = Function.update s.processes pid (some { process with state })

/-- A step that leaves the store alone. -/
theorem Advances.of_state {identitySha256 : String} {s : System} (hstore : s.toQuotaStore.Valid)
    (pid : Nat) (process : Process) {state : ConsumeState}
    (hstate : ConsumeValid s.toQuotaStore identitySha256 process.operationToken process.limit
      state) : Advances identitySha256 s (s.setState pid process state) pid process :=
  ⟨hstore, .refl _, .of_windows rfl _, state, hstate, rfl⟩

theorem Advances.of_written {identitySha256 : String} {s : System} {store : QuotaStore}
    (pid : Nat) (process : Process) (left : Nat) {report : WriteReport}
    (h : Written s.toQuotaStore store process.operationToken process.limit report) :
    Advances identitySha256 s
      ({ s with toQuotaStore := store }.setState pid process (consumeWritten left report))
      pid process := by
  refine ⟨h.valid, h.later, h.limits, _, ?_, rfl⟩
  cases report with
  | ok => exact h.recorded rfl
  | rejected => exact consumeValid_attempt _ _ _ _ left
  | failed => exact consumeValid_attempt _ _ _ _ left

theorem consumeStep_advances {identitySha256 : String} {s s' : System} {pid : Nat}
    {process : Process} {state : ConsumeState} {action : Action}
    (hstore : s.toQuotaStore.Valid)
    (hstate : ConsumeValid s.toQuotaStore identitySha256 process.operationToken process.limit
      state)
    (h : consumeStep identitySha256 s pid process state action = some s') :
    Advances identitySha256 s s' pid process := by
  unfold consumeStep at h
  split at h
  · cases h
    exact .of_state hstore pid process (consumeValid_started _ _ _ _)
  · cases h
    exact .of_state hstore pid process (consumeValid_attempt _ _ _ _ _)
  · cases h
    exact .of_state hstore pid process (consumeValid_read hstore _ _ _ _)
  · cases h
    exact .of_state hstore pid process (consumeValid_opened _ _ _ _)
  · obtain ⟨store, hwrite, hs'⟩ := Option.bind_eq_some_iff.mp h
    cases Option.some.inj hs'
    exact .of_written pid process _ (create_written hstore hstate hwrite)
  · cases h
    obtain ⟨hvalid, hlater, hdecided⟩ := consumeDecided_valid hstore hstate rfl
    refine ⟨hvalid, hlater, .of_windows ?_ _, _, hdecided, rfl⟩
    simp only [System.setState, QuotaStore.recordAllowed]
    split <;> rfl
  · obtain ⟨store, hwrite, hs'⟩ := Option.bind_eq_some_iff.mp h
    cases Option.some.inj hs'
    exact .of_written pid process _ (replace_written hstore hstate hwrite)
  · cases h

structure System.Valid (identitySha256 : String) (s : System) : Prop where
  store : s.toQuotaStore.Valid
  process : ∀ pid process, s.processes pid = some process →
    ProcessValid identitySha256 s.toQuotaStore process
  limit : ∀ window document, s.windows window = some document →
    ∃ pid process, s.processes pid = some process ∧ process.limit = document.limit

theorem System.Valid.initial (identitySha256 : String) (clock : UtcDateTime) :
    (initial clock).Valid identitySha256 where
  store :=
    { tags := fun _ h => (nomatch h)
      item := fun _ h => (nomatch h)
      window := fun _ _ h => (nomatch h)
      allowed := fun _ _ h => (nomatch h) }
  process := fun _ _ h => (nomatch h)
  limit := fun _ _ h => (nomatch h)

/-- A step without calls: only the store moves, and no window with it. -/
theorem System.Valid.next {identitySha256 : String} {s : System} {store : QuotaStore}
    (h : s.Valid identitySha256) (hnext : s.toQuotaStore.Next store)
    (hwindows : store.windows = s.windows) :
    ({ s with toQuotaStore := store } : System).Valid identitySha256 := by
  refine ⟨h.store.next hnext, ?_, ?_⟩
  · intro pid process hprocess
    exact (h.process pid process hprocess).later (hnext.later h.store)
  · intro window document hwindow
    exact h.limit window document (hwindows ▸ hwindow)

theorem System.Valid.advances {identitySha256 : String} {s s' : System} {pid : Nat}
    {process : Process} (h : s.Valid identitySha256) (hprocess : s.processes pid = some process)
    (hadvances : Advances identitySha256 s s' pid process) : s'.Valid identitySha256 := by
  obtain ⟨hstore, hlater, hlimits, state, hstate, hupdate⟩ := hadvances
  -- a call keeps its limit as it moves on
  have hkept : ∀ other found, s.processes other = some found →
      ∃ moved, s'.processes other = some moved ∧ moved.limit = found.limit := by
    intro other found hfound
    rw [hupdate]
    by_cases hpid : other = pid
    · subst hpid
      obtain rfl : process = found := Option.some.inj (hprocess.symm.trans hfound)
      exact ⟨_, Function.update_self _ _ _, rfl⟩
    · exact ⟨found, (Function.update_of_ne hpid _ _).trans hfound, rfl⟩
  refine ⟨hstore, ?_, ?_⟩
  · intro other found hfound
    rw [hupdate] at hfound
    by_cases hpid : other = pid
    · subst hpid
      rw [Function.update_self] at hfound
      cases hfound
      exact hstate
    · rw [Function.update_of_ne hpid] at hfound
      exact (h.process other found hfound).later hlater
  · intro window document hwindow
    rcases hlimits window document hwindow with hlimit | ⟨before, hbefore, hlimit⟩
    · obtain ⟨moved, hmoved, hsame⟩ := hkept pid process hprocess
      exact ⟨pid, moved, hmoved, hsame.trans hlimit.symm⟩
    · obtain ⟨other, found, hfound, hsame⟩ := h.limit window before hbefore
      obtain ⟨moved, hmoved, hkeeps⟩ := hkept other found hfound
      exact ⟨other, moved, hmoved, hkeeps.trans (hsame.trans hlimit)⟩

theorem System.Valid.processStep {identitySha256 : String} {s s' : System} {pid : Nat}
    {action : Action} (h : s.Valid identitySha256)
    (hstep : processStep identitySha256 s pid action = some s') : s'.Valid identitySha256 := by
  unfold RefreshQuota.processStep at hstep
  split at hstep
  · rename_i process hprocess
    exact h.advances hprocess (consumeStep_advances h.store (h.process pid process hprocess) hstep)
  · cases hstep

theorem System.Valid.begin {identitySha256 : String} {s : System} {pid : Nat}
    (h : s.Valid identitySha256) (hfree : s.processes pid = none) (operationToken : String)
    (limit : Nat) :
    System.Valid identitySha256 { s with
      processes := Function.update s.processes pid (some ⟨operationToken, limit, .start⟩) } := by
  refine ⟨h.store, ?_, ?_⟩
  · intro other found hfound
    by_cases hpid : other = pid
    · subst hpid
      change Function.update s.processes other _ other = some found at hfound
      rw [Function.update_self] at hfound
      cases hfound
      trivial
    · exact h.process other found ((Function.update_of_ne hpid _ _).symm.trans hfound)
  · intro window document hwindow
    obtain ⟨other, found, hfound, hlimit⟩ := h.limit window document hwindow
    have hpid : other ≠ pid := by
      rintro rfl
      rw [hfree] at hfound
      cases hfound
    exact ⟨other, found, (Function.update_of_ne hpid _ _).trans hfound, hlimit⟩

theorem System.Valid.step {identitySha256 : String} {s s' : System} {action : Action}
    (h : s.Valid identitySha256) (hstep : step identitySha256 s action = some s') :
    s'.Valid identitySha256 := by
  cases action with
  | tick now =>
      simp only [RefreshQuota.step] at hstep
      split at hstep
      · rename_i later
        cases hstep
        exact h.next (.tick later) rfl
      · cases hstep
  | expire =>
      obtain ⟨cell, hdropped, rfl⟩ := Option.map_eq_some_iff.mp hstep
      exact h.next (.expire hdropped) rfl
  | begin pid operationToken limit =>
      simp only [RefreshQuota.step] at hstep
      split at hstep
      · rename_i hfree
        cases hstep
        exact h.begin (Option.isNone_iff_eq_none.mp hfree) operationToken limit
      · cases hstep
  | sample pid => exact h.processStep hstep
  | read pid failed => exact h.processStep hstep
  | write pid applied report => exact h.processStep hstep

theorem Reachable.valid {identitySha256 : String} {start : UtcDateTime} {s : System}
    (h : Reachable (step identitySha256) (initial start) s) : s.Valid identitySha256 :=
  h.invariant (.initial identitySha256 start) fun _ _ _ hs hstep => hs.step hstep

/-! ### Accounting -/

/-- The distinct operations answered as allowed and counted in a window. -/
def QuotaStore.allowedIn (s : QuotaStore) (window : Nat) : Finset String :=
  ((s.allowed.filter fun answer => answer.1 = window).map Prod.snd).toFinset

theorem QuotaStore.mem_allowedIn {s : QuotaStore} {window : Nat} {operationToken : String} :
    operationToken ∈ s.allowedIn window ↔ (window, operationToken) ∈ s.allowed := by
  simp [allowedIn]

theorem QuotaStore.Valid.card_allowedIn_le {s : QuotaStore} (h : s.Valid) {window : Nat}
    {document : RefreshQuotaDocument} (hwindow : s.windows window = some document) :
    (s.allowedIn window).card ≤ document.limit := by
  obtain ⟨-, -, hcount, hlimit⟩ := validate_count (h.window window document hwindow).valid
  have hsubset : s.allowedIn window ⊆ document.operationTokens.toFinset := by
    intro operationToken hmem
    obtain ⟨found, hfound, hrecorded⟩ :=
      h.allowed window operationToken (QuotaStore.mem_allowedIn.mp hmem)
    obtain rfl : document = found := Option.some.inj (hwindow.symm.trans hfound)
    exact List.mem_toFinset.mpr hrecorded
  calc (s.allowedIn window).card
      ≤ document.operationTokens.toFinset.card := Finset.card_le_card hsubset
    _ ≤ document.operationTokens.length := List.toFinset_card_le _
    _ = document.count := hcount.symm
    _ ≤ document.limit := hlimit

theorem QuotaStore.Valid.endedBy_of_lt {s : QuotaStore} (h : s.Valid) {window later : Nat}
    {document next : RefreshQuotaDocument} (hwindow : s.windows window = some document)
    (hnext : s.windows later = some next) (hlt : window < later) :
    document.EndedBy s.clock.nanos := by
  rcases (h.window window document hwindow).storedOrEnded with ⟨item, hitem, rfl⟩ | hover
  · have hnewest := (h.item item hitem).newest later next hnext
    omega
  · exact hover

/-- The refresh quota in every reachable state: every window's document is
valid, counts its distinct operations, and bounds the operations answered as
allowed by the limit of the call that opened the window; every allowed answer
is counted in a window; the stored document is that of its window; the store
drops it, and another window opens, only after the window ended. -/
theorem refresh_quota_accounting {identitySha256 : String} {start : UtcDateTime} {s : System}
    (h : Reachable (step identitySha256) (initial start) s) :
    (∀ window document, s.windows window = some document →
      document.validate = .ok () ∧
      document.count = document.operationTokens.toFinset.card ∧
      (s.allowedIn window).card ≤ document.limit ∧
      ∃ pid process, s.processes pid = some process ∧ process.limit = document.limit) ∧
    (∀ pid process, s.processes pid = some process → process.state = .done (.ok .allowed) →
      ∃ window document, process.operationToken ∈ s.allowedIn window ∧
        s.windows window = some document ∧
        process.operationToken ∈ document.operationTokens) ∧
    (∀ item, s.cell.item = some item → s.windows item.value.1 = some item.value.2) ∧
    (∀ item s', s.cell.item = some item → step identitySha256 s .expire = some s' →
      item.value.2.EndedBy s.clock.nanos) ∧
    (∀ window later document next, s.windows window = some document →
      s.windows later = some next → window < later → document.EndedBy s.clock.nanos) := by
  have hvalid := Reachable.valid h
  refine ⟨?_, ?_, ?_, ?_, ?_⟩
  · intro window document hwindow
    have hdocument := (hvalid.store.window window document hwindow).valid
    obtain ⟨-, hnodup, hcount, -⟩ := validate_count hdocument
    exact ⟨hdocument, hcount.trans (List.toFinset_card_of_nodup hnodup).symm,
      hvalid.store.card_allowedIn_le hwindow, hvalid.limit window document hwindow⟩
  · intro pid process hprocess hstate
    have hanswer := hvalid.process pid process hprocess
    rw [ProcessValid, hstate] at hanswer
    obtain ⟨window, hallowed⟩ := hanswer
    obtain ⟨document, hwindow, hrecorded⟩ := hvalid.store.allowed _ _ hallowed
    exact ⟨window, document, QuotaStore.mem_allowedIn.mpr hallowed, hwindow, hrecorded⟩
  · intro item hitem
    exact (hvalid.store.item item hitem).current
  · intro item s' hitem hexpire
    obtain ⟨cell, hdropped, -⟩ := Option.map_eq_some_iff.mp hexpire
    obtain ⟨found, hfound, hdue, -⟩ := EtagCell.expire_eq_some hdropped
    obtain rfl : item = found := Option.some.inj (hitem.symm.trans hfound)
    exact (hvalid.store.item item hitem).lasting.later hdue
  · intro window later document next hwindow hnext hlt
    exact hvalid.store.endedBy_of_lt hwindow hnext hlt

namespace QuotaWitness

theorem noon_inRange : Rfc3339.minNanos ≤ 63953582400000000000 ∧
    63953582400000000000 < Rfc3339.endNanos := by decide

/-- 2026-08-10T12:00:00Z. -/
def noon : UtcDateTime := ⟨63953582400000000000, noon_inRange⟩

/-- 2026-08-10T12:59:59.5Z, inside the last second of the window. -/
def lastSecond : UtcDateTime := ⟨63953585999500000000, by decide⟩

def identity : String := "bbbbbbbbbbbbbbbbbbbbbbbbbbbbbbbbbbbbbbbbbbbbbbbbbbbbbbbbbbbbbbbb"

def firstToken : String := "11111111-1111-4111-8111-111111111111"
def secondToken : String := "22222222-2222-4222-8222-222222222222"

/-- A write that takes effect with its report lost is retried and found; the
second operation is counted in the last second of the window. -/
def lostReport : List Action := [
  .begin 0 firstToken 2, .sample 0, .read 0 false, .sample 0, .write 0 true (.failed 503),
  .tick lastSecond, .begin 1 secondToken 2, .sample 1, .read 1 false, .sample 1,
  .write 1 true .ok, .read 0 false, .sample 0]

theorem run_lostReport :
    (runActions (step identity) (initial noon) lostReport).any (fun s =>
      s.allowedIn 0 == {firstToken, secondToken} &&
        (s.windows 0).any fun document => document.limit == 2) = true := by
  decide +kernel

end QuotaWitness

open QuotaWitness in
/-- Both operations of the run above were counted in its one window. -/
theorem refresh_quota_accounting_lost_report :
    ∃ (s : System) (document : RefreshQuotaDocument), s.windows 0 = some document ∧
      s.allowedIn 0 = {firstToken, secondToken} ∧
      (s.allowedIn 0).card ≤ document.limit := by
  obtain ⟨s, hrun, hanswered⟩ := (Option.any_eq_true _ _).mp run_lostReport
  rw [Bool.and_eq_true, beq_iff_eq] at hanswered
  obtain ⟨hallowed, hlimit⟩ := hanswered
  obtain ⟨document, hwindow, -⟩ := (Option.any_eq_true _ _).mp hlimit
  have hreachable : Reachable (step identity) (initial noon) s :=
    reachable_of_runActions .init hrun
  exact ⟨s, document, hwindow, hallowed,
    ((refresh_quota_accounting hreachable).1 0 document hwindow).2.2.1⟩

end TcoCalculator.RefreshQuota
