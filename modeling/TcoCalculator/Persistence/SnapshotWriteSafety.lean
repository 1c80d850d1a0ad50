/-
Whatever the order of the calls, the stored document never gets older, and a
call that returns has left nothing older than its own document.
-/
import TcoCalculator.Persistence.SnapshotWrite

namespace TcoCalculator.SnapshotWrite

open PricingCache Transition

variable {T : Type} {kind : SnapshotDocument T}

/-! ### The store -/

/-- The retrieval time of a document, if it states one. -/
def SnapshotDocument.retrieved (kind : SnapshotDocument T) (document : T) : Option Int :=
  match parseUtcTimestamp (kind.retrievedAt document) with
  | .ok timestamp => some timestamp.nanos
  | .error _ => none

theorem SnapshotDocument.retrieved_of_validate {document : T}
    (h : kind.validate document = .ok ()) : ∃ nanos, kind.retrieved document = some nanos := by
  obtain ⟨timestamp, hparse⟩ := kind.retrievedAt_of_validate document h
  exact ⟨timestamp.nanos, by rw [SnapshotDocument.retrieved, hparse]⟩

/-- The comparison of retrieval times goes by the instants. -/
theorem retrievedLater_eq_ok {document existing : T} {later : Bool}
    (h : retrievedLater (kind.retrievedAt document) (kind.retrievedAt existing) = .ok later) :
    ∃ incoming stored, kind.retrieved document = some incoming ∧
      kind.retrieved existing = some stored ∧ later = decide (stored < incoming) := by
  obtain ⟨incoming, hincoming, h⟩ := Fallible.bind_eq_ok.mp h
  obtain ⟨stored, hstored, h⟩ := Fallible.bind_eq_ok.mp h
  refine ⟨incoming.nanos, stored.nanos, ?_, ?_, (Except.ok.inj h).symm⟩
  · rw [SnapshotDocument.retrieved, hincoming]
  · rw [SnapshotDocument.retrieved, hstored]

/-- The retrieval time of what is stored. -/
def storedRetrieved (kind : SnapshotDocument T) (cell : EtagCell T) : Option Int :=
  cell.item.bind fun item => kind.retrieved item.value

/-- What is stored was retrieved at the given time or later. -/
def RetrievedSince (kind : SnapshotDocument T) (cell : EtagCell T) (nanos : Int) : Prop :=
  ∃ stored, storedRetrieved kind cell = some stored ∧ nanos ≤ stored

theorem retrievedSince_put {document : T} {incoming nanos : Int} (cell : EtagCell T) (now : Int)
    (hdocument : kind.retrieved document = some incoming) (hle : nanos ≤ incoming) :
    RetrievedSince kind (cell.put document now) nanos :=
  ⟨incoming, hdocument, hle⟩

theorem RetrievedSince.of_item {cell : EtagCell T} {item : EtagItem T} {nanos stored : Int}
    (hitem : cell.item = some item) (hstored : kind.retrieved item.value = some stored)
    (hle : nanos ≤ stored) : RetrievedSince kind cell nanos :=
  ⟨stored, by rw [storedRetrieved, hitem, Option.bind_some, hstored], hle⟩

theorem RetrievedSince.of_observed {cell : EtagCell T} {item : EtagItem T} {nanos stored : Int}
    (h : RetrievedSince kind cell nanos) (hitem : cell.item = some item)
    (hstored : kind.retrieved item.value = some stored) : nanos ≤ stored := by
  obtain ⟨other, hother, hle⟩ := h
  rw [storedRetrieved, hitem, Option.bind_some, hstored] at hother
  exact (Option.some.inj hother) ▸ hle

/-- Facts about an earlier cell that stay true. -/
structure Later (kind : SnapshotDocument T) (cell cell' : EtagCell T) : Prop where
  observed : ∀ value etag, cell.Observed value etag → cell'.Observed value etag
  retrieved : ∀ nanos, RetrievedSince kind cell nanos → RetrievedSince kind cell' nanos

theorem Later.refl (cell : EtagCell T) : Later kind cell cell := ⟨fun _ _ h => h, fun _ h => h⟩

/-- A document created under a free identifier, or written over an older one. -/
theorem later_put {cell : EtagCell T} {document : T} {incoming : Int} (now : Int)
    (hdocument : kind.retrieved document = some incoming)
    (holder : ∀ item, cell.item = some item →
      ∃ stored, kind.retrieved item.value = some stored ∧ stored < incoming) :
    Later kind cell (cell.put document now) := by
  refine ⟨fun value etag h => h.put document now, fun nanos h => ?_⟩
  cases hitem : cell.item with
  | none =>
      obtain ⟨stored, hstored, -⟩ := h
      simp [storedRetrieved, hitem] at hstored
  | some item =>
      obtain ⟨stored, hstored, hlt⟩ := holder item hitem
      have hle := h.of_observed hitem hstored
      exact retrievedSince_put cell now hdocument (hle.trans hlt.le)

/-! ### The calls -/

/-- What a call knows where it stands. -/
def CallValid (kind : SnapshotDocument T) (cell : EtagCell T) (document : T) : PutState → Prop
  | .create | .read _ | .createAgain _ => kind.validate document = .ok ()
  | .replace _ etag => kind.validate document = .ok () ∧
      ∃ existing stored incoming, cell.Observed existing etag ∧
        kind.retrieved existing = some stored ∧ kind.retrieved document = some incoming ∧
        stored < incoming
  | .done (.ok _) => ∃ nanos, kind.retrieved document = some nanos ∧
      RetrievedSince kind cell nanos
  | .done (.error _) | .panicked => True

theorem CallValid.later {cell cell' : EtagCell T} {document : T} {state : PutState}
    (h : CallValid kind cell document state) (hlater : Later kind cell cell') :
    CallValid kind cell' document state := by
  rcases state with _ | left | left | ⟨left, etag⟩ | (failure | answer) | _
  · exact h
  · exact h
  · exact h
  · obtain ⟨hvalid, existing, stored, incoming, hobserved, hrest⟩ := h
    exact ⟨hvalid, existing, stored, incoming, hlater.observed _ _ hobserved, hrest⟩
  · trivial
  · obtain ⟨nanos, hnanos, hsince⟩ := h
    exact ⟨nanos, hnanos, hlater.retrieved nanos hsince⟩
  · trivial

theorem callValid_attempt (cell : EtagCell T) {document : T}
    (hvalid : kind.validate document = .ok ()) (left : Nat) :
    CallValid kind cell document (.attempt left) := by
  cases left with
  | zero => trivial
  | succ left => exact hvalid

theorem callValid_begin (cell : EtagCell T) (document : T) :
    CallValid kind cell document (beginPut kind document) := by
  unfold beginPut
  split
  · assumption
  · trivial
  · trivial

theorem callValid_existing {cell : EtagCell T} (hissued : cell.TagsIssued) {document : T}
    (hvalid : kind.validate document = .ok ()) {item : EtagItem T}
    (hitem : cell.item = some item) (left : Nat) :
    CallValid kind cell document (putExisting kind document item.value left item.etag) := by
  unfold putExisting
  split
  · trivial
  · trivial
  · split
    · trivial
    · rename_i hlater
      obtain ⟨incoming, stored, hincoming, hstored, hnotLater⟩ := retrievedLater_eq_ok hlater
      have hle : incoming ≤ stored := by simpa using hnotLater
      exact ⟨incoming, hincoming, .of_item hitem hstored hle⟩
    · rename_i hlater
      obtain ⟨incoming, stored, hincoming, hstored, hisLater⟩ := retrievedLater_eq_ok hlater
      have hlt : stored < incoming := by simpa using hisLater
      exact ⟨hvalid, item.value, stored, incoming, .of_item hissued hitem, hstored, hincoming,
        hlt⟩

theorem callValid_read {cell : EtagCell T} (hissued : cell.TagsIssued) {document : T}
    (hvalid : kind.validate document = .ok ()) (left : Nat) (answer : ReadAnswer) :
    CallValid kind cell document (putRead kind document left answer cell.item) := by
  cases hitem : cell.item with
  | none =>
      cases answer with
      | failed status => trivial
      | served => exact hvalid
      | untagged => exact hvalid
  | some item =>
      cases answer with
      | failed status => trivial
      | served => exact callValid_existing hissued hvalid hitem left
      | untagged => trivial

/-- A call about to write has a valid document, and if it replaces a document,
that document is older. -/
theorem CallValid.beforeWrite {cell : EtagCell T} {document : T} {state : PutState}
    (h : CallValid kind cell document state) {precondition : Precondition} {left : Nat}
    (hnext : nextWrite state = some (precondition, left)) :
    kind.validate document = .ok () ∧ ∀ incoming, kind.retrieved document = some incoming →
      cell.admits precondition = true → ∀ item, cell.item = some item →
        ∃ stored, kind.retrieved item.value = some stored ∧ stored < incoming := by
  have habsent : cell.admits .absent = true → ∀ item, cell.item ≠ some item := by
    intro hadmits item hitem
    rw [EtagCell.admits_absent, hitem] at hadmits
    cases hadmits
  rcases state with _ | left | left | ⟨left, etag⟩ | result | _
  · cases hnext
    exact ⟨h, fun _ _ hadmits item hitem => absurd hitem (habsent hadmits item)⟩
  · cases hnext
  · cases hnext
    exact ⟨h, fun _ _ hadmits item hitem => absurd hitem (habsent hadmits item)⟩
  · cases hnext
    obtain ⟨hvalid, existing, stored, incoming, hobserved, hstored, hincoming, hlt⟩ := h
    refine ⟨hvalid, fun other hother hadmits item hitem => ?_⟩
    obtain rfl : incoming = other := Option.some.inj (hincoming.symm.trans hother)
    obtain ⟨found, hfound, -, rfl⟩ := hobserved.admits hadmits
    obtain rfl : found = item := Option.some.inj (hfound.symm.trans hitem)
    exact ⟨stored, hstored, hlt⟩
  · cases hnext
  · cases hnext

/-- A write leaves nothing older in the store, and the call goes on validly. -/
theorem CallValid.write {cell cell' : EtagCell T} {document : T} {state : PutState}
    (h : CallValid kind cell document state) (hissued : cell.TagsIssued)
    {precondition : Precondition} {left : Nat} {now : Int} {applied : Bool}
    {report : WriteReport} (hnext : nextWrite state = some (precondition, left))
    (hwrite : cell.write precondition document now applied report = some cell') :
    cell'.TagsIssued ∧ Later kind cell cell' ∧
      CallValid kind cell' document (putWritten left report) := by
  obtain ⟨hvalid, holder⟩ := h.beforeWrite hnext
  obtain ⟨incoming, hincoming⟩ := SnapshotDocument.retrieved_of_validate hvalid
  obtain ⟨-, hadmits, rfl⟩ | ⟨-, hreport, rfl⟩ := EtagCell.write_eq_some hwrite
  · refine ⟨.put document now, later_put now hincoming (holder incoming hincoming hadmits), ?_⟩
    cases report with
    | ok => exact ⟨incoming, hincoming, retrievedSince_put cell now hincoming le_rfl⟩
    | rejected => exact callValid_attempt _ hvalid left
    | failed status => trivial
  · refine ⟨hissued, .refl _, ?_⟩
    cases report with
    | ok => exact absurd rfl hreport
    | rejected => exact callValid_attempt _ hvalid left
    | failed status => trivial

/-! ### Every interleaving -/

structure System.Valid (kind : SnapshotDocument T) (s : System T) : Prop where
  tags : s.cell.TagsIssued
  calls : ∀ pid process, s.processes pid = some process →
    CallValid kind s.cell process.document process.state

theorem valid_initial (existing : Option T) : (initial existing).Valid kind := by
  refine ⟨?_, nofun⟩
  intro item hitem
  obtain ⟨value, -, rfl⟩ := Option.map_eq_some_iff.mp hitem
  exact Nat.zero_lt_one

/-- A call takes a step while the others stand still. -/
theorem System.Valid.setProcess {s : System T} (h : s.Valid kind) (s' : System T)
    (hprocesses : s'.processes = s.processes) (hissued : s'.cell.TagsIssued)
    (hlater : Later kind s.cell s'.cell) {pid : Nat} {process : Process T}
    (hprocess : CallValid kind s'.cell process.document process.state) :
    (s'.setProcess pid process).Valid kind := by
  refine ⟨hissued, fun other found hfound => ?_⟩
  by_cases hother : other = pid
  · subst hother
    obtain rfl : process = found := by simpa [System.setProcess] using hfound
    exact hprocess
  · have hold : s.processes other = some found := by
      simpa [System.setProcess, hother, hprocesses] using hfound
    exact (h.calls other found hold).later hlater

theorem valid_step {id : String} {s s' : System T} {action : Action T} (h : s.Valid kind)
    (hstep : step kind id s action = some s') : s'.Valid kind ∧ Later kind s.cell s'.cell := by
  cases action with
  | begin pid document =>
      simp only [step] at hstep
      split at hstep
      · cases hstep
        exact ⟨h.setProcess s rfl h.tags (.refl _) (callValid_begin _ _), .refl _⟩
      · cases hstep
  | read pid answer =>
      obtain ⟨⟨document, state⟩, hprocess, hread⟩ := Option.bind_eq_some_iff.mp hstep
      have hcall := h.calls pid _ hprocess
      cases state with
      | read left =>
          cases hread
          exact ⟨h.setProcess s rfl h.tags (.refl _) (callValid_read h.tags hcall left answer),
            .refl _⟩
      | create | createAgain | replace | done | panicked => cases hread
  | write pid now applied report =>
      obtain ⟨process, hprocess, hput⟩ := Option.bind_eq_some_iff.mp hstep
      obtain ⟨⟨precondition, left⟩, hnext, hput⟩ := Option.bind_eq_some_iff.mp hput
      obtain ⟨cell, hwrite, hput⟩ := Option.bind_eq_some_iff.mp hput
      cases hput
      obtain ⟨hissued, hlater, hcall⟩ :=
        (h.calls pid process hprocess).write h.tags hnext hwrite
      exact ⟨h.setProcess { s with cell := cell } rfl hissued hlater hcall, hlater⟩

theorem valid_of_reachable {id : String} {existing : Option T} {s : System T}
    (reached : Reachable (step kind id) (initial existing) s) : s.Valid kind :=
  reached.invariant (valid_initial existing) fun _ _ _ hs hstep => (valid_step hs hstep).1

/-- The newest document wins: over any interleaving of calls the retrieval time
of what is stored never decreases, and when a call has returned, what is stored
was not retrieved before the call's document. -/
theorem newest_document_wins {id : String} {existing : Option T} {s : System T}
    (reached : Reachable (step kind id) (initial existing) s) :
    (∀ action s' stored, step kind id s action = some s' →
      storedRetrieved kind s.cell = some stored →
      ∃ stored', storedRetrieved kind s'.cell = some stored' ∧ stored ≤ stored') ∧
    ∀ pid process, s.processes pid = some process → process.state = .done (.ok ()) →
      ∃ nanos stored, kind.retrieved process.document = some nanos ∧
        storedRetrieved kind s.cell = some stored ∧ nanos ≤ stored := by
  have hvalid := valid_of_reachable reached
  constructor
  · intro action s' stored hstep hstored
    exact (valid_step hvalid hstep).2.retrieved stored ⟨stored, hstored, le_rfl⟩
  · intro pid process hprocess hdone
    have hcall := hvalid.calls pid process hprocess
    rw [hdone] at hcall
    obtain ⟨nanos, hnanos, stored, hstored, hle⟩ := hcall
    exact ⟨nanos, stored, hnanos, hstored, hle⟩

namespace PutWitness

def hash : String := String.ofList (List.replicate 64 '0')

def document (retrievedAt : String) : AwsSnapshotStateDocument where
  id := awsStateDocumentId "EUR" "eu-west-1"
  documentType := awsStateDocumentType
  cachePartition := pricingCachePartition
  provider := .aws
  currency := "EUR"
  sourceRegion := "eu-west-1"
  snapshotId := "aws-" ++ hash
  metadata := ⟨"aws-" ++ hash, .aws, .fresh, retrievedAt, none, "EUR", [], "1", hash, []⟩
  ec2ContentSha256 := hash
  rdsContentSha256 := hash
  ebsContentSha256 := hash
  ttl := persistentDocumentTtl

def stored : AwsSnapshotStateDocument := document "2026-01-01T08:00:00Z"

def incoming : AwsSnapshotStateDocument := document "2026-01-01T09:00:00Z"

/-- The identifier is taken; the stored document is read and replaced. -/
def replaceRun : List (Action AwsSnapshotStateDocument) :=
  [.begin 0 incoming, .write 0 0 false .rejected, .read 0 .served, .write 0 0 true .ok]

end PutWitness

open PutWitness in
/-- A later document replaces the stored one. -/
theorem newest_document_wins_replace :
    ∃ (s : System AwsSnapshotStateDocument) (process : Process AwsSnapshotStateDocument),
      s.processes 0 = some process ∧ process.state = .done (.ok ()) ∧
      ∃ nanos retrieved, awsState.retrieved process.document = some nanos ∧
        storedRetrieved awsState s.cell = some retrieved ∧ nanos ≤ retrieved := by
  have hrun : (runActions (step awsState incoming.id) (initial (some stored)) replaceRun).any
      (fun s => (s.processes 0).any fun process => process.state == .done (.ok ())) = true := by
    decide +kernel
  obtain ⟨s, hs, hdone⟩ := (Option.any_eq_true _ _).mp hrun
  obtain ⟨process, hprocess, hstate⟩ := (Option.any_eq_true _ _).mp hdone
  have hreached := reachable_of_runActions ReachableWhen.init hs
  obtain ⟨nanos, retrieved, hnanos, hretrieved, hle⟩ :=
    (newest_document_wins hreached).2 0 process hprocess (eq_of_beq hstate)
  exact ⟨s, process, hprocess, eq_of_beq hstate, nanos, retrieved, hnanos, hretrieved, hle⟩

end TcoCalculator.SnapshotWrite
