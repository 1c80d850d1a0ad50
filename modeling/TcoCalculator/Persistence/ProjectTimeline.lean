/-
All calls of the project store, of every request, in the order they are served;
at any of them the store may be out of reach.
-/
import TcoCalculator.Persistence.ProjectRepositoryRun

namespace TcoCalculator.ProjectRepository

variable {D : Type} [DecimalArith D]

/-! ### Between two versions -/

/-- A document found after a call that did not create it is the one found before,
or a later version of it. -/
theorem Change.same_or_later {event : Event D} {repository after : Repository D}
    {outcome : Outcome RepositoryError (Answer D)} (h : Change event repository outcome after)
    {key : ProjectKey} (hcreates : ¬ event.Creates key) {latest : StoredProject D}
    (hfound : after.value.lookup key = some latest) :
    ∃ stored, repository.value.lookup key = some stored ∧
      (latest = stored ∨ stored.version < latest.version) := by
  cases h with
  | refused => exact ⟨latest, hfound, .inl rfl⟩
  | observed => exact ⟨latest, hfound, .inl rfl⟩
  | @created id project revision _ call =>
      have hkey : key ≠ (event.ownerId, id) := by
        rintro rfl
        exact hcreates ⟨rfl, project, revision, call⟩
      rw [AList.lookup_insert_ne hkey] at hfound
      exact ⟨latest, hfound, .inl rfl⟩
  | @updated projectId _ _ _ current _ _ found =>
      by_cases hkey : key = (event.ownerId, projectId)
      · subst hkey
        rw [HashMap.lookup_replace _ _ (HashMap.mem_of_lookup found)] at hfound
        cases hfound
        exact ⟨current, found, .inr (Nat.lt_succ_self _)⟩
      · rw [HashMap.lookup_replace_ne _ _ hkey] at hfound
        exact ⟨latest, hfound, .inl rfl⟩
  | @deleted projectId =>
      by_cases hkey : key = (event.ownerId, projectId)
      · subst hkey
        rw [AList.lookup_erase] at hfound
        cases hfound
      · rw [AList.lookup_erase_ne hkey] at hfound
        exact ⟨latest, hfound, .inl rfl⟩

variable {documentBytes : ProjectDocument D → Nat}

theorem Run.same_or_later {repository current : Repository D} {log : List (Entry D)}
    (run : Run documentBytes repository log current) {key : ProjectKey}
    (hcreates : ∀ entry ∈ log, ¬ entry.event.Creates key) {latest : StoredProject D}
    (hfound : current.value.lookup key = some latest) :
    ∃ stored, repository.value.lookup key = some stored ∧
      (latest = stored ∨ stored.version < latest.version) := by
  induction run generalizing latest with
  | start => exact ⟨latest, hfound, .inl rfl⟩
  | step _ event ih =>
      have hlast := hcreates ⟨event, _⟩ (List.mem_append_right _ List.mem_cons_self)
      obtain ⟨middle, hmiddle, hstep⟩ := (perform_change event _).same_or_later hlast hfound
      obtain ⟨stored, hstored, hbefore⟩ :=
        ih (fun entry hentry => hcreates entry (List.mem_append_left _ hentry)) hmiddle
      refine ⟨stored, hstored, ?_⟩
      rcases hstep with rfl | hstep
      · exact hbefore
      · rcases hbefore with rfl | hbefore
        · exact .inr hstep
        · exact .inr (hbefore.trans hstep)

/-! ### The timeline -/

/-- The calls served, one after another. -/
structure Timeline (D : Type) where
  event : Nat → Event D
  isDown : Nat → Bool

namespace Timeline

variable (timeline : Timeline D) (documentBytes)

/-- The store just before a call. -/
def stateAt : Nat → Repository D
  | 0 => emptyRepository
  | time + 1 =>
      if timeline.isDown time then stateAt time
      else (perform documentBytes (timeline.event time) (stateAt time)).2

/-- The answer to a call. -/
def answerAt (time : Nat) : Outcome RepositoryError (Answer D) :=
  if timeline.isDown time then .err .unavailable
  else (perform documentBytes (timeline.event time) (timeline.stateAt documentBytes time)).1

/-- What the store has been asked before a time, with its answers. -/
def logUpTo : Nat → List (Entry D)
  | 0 => []
  | time + 1 =>
      if timeline.isDown time then logUpTo time
      else logUpTo time ++ [⟨timeline.event time, timeline.answerAt documentBytes time⟩]

/-- An owner's call and the answer it got. -/
def Served (time : Nat) (asked : String × Call D)
    (answer : Outcome RepositoryError (Answer D)) : Prop :=
  (timeline.event time).ownerId = asked.1 ∧ (timeline.event time).call = asked.2 ∧
    timeline.answerAt documentBytes time = answer

/-- No two creates ever draw the same identifier for one owner. -/
def FreshIds : Prop := ∀ time, ProjectRepository.FreshIds (timeline.logUpTo documentBytes time)

variable {timeline}

theorem run_from (start steps : Nat) : ∃ log,
    timeline.logUpTo documentBytes (start + steps) = timeline.logUpTo documentBytes start ++ log ∧
    Run documentBytes (timeline.stateAt documentBytes start) log
      (timeline.stateAt documentBytes (start + steps)) := by
  induction steps with
  | zero => exact ⟨[], (List.append_nil _).symm, .start⟩
  | succ steps ih =>
      obtain ⟨log, hlog, hrun⟩ := ih
      rw [← Nat.add_assoc]
      by_cases hdown : timeline.isDown (start + steps) = true
      · refine ⟨log, ?_, ?_⟩
        · rw [logUpTo, if_pos hdown, hlog]
        · rwa [stateAt, if_pos hdown]
      · refine ⟨log ++ [⟨timeline.event (start + steps),
          timeline.answerAt documentBytes (start + steps)⟩], ?_, ?_⟩
        · rw [logUpTo, if_neg hdown, hlog, List.append_assoc]
        · rw [stateAt, if_neg hdown, answerAt, if_neg hdown]
          exact hrun.step _

theorem change {time : Nat} (hup : timeline.isDown time = false) :
    Change (timeline.event time) (timeline.stateAt documentBytes time)
      (timeline.answerAt documentBytes time) (timeline.stateAt documentBytes (time + 1)) := by
  simp only [answerAt, stateAt, hup, Bool.false_eq_true, if_false]
  exact perform_change _ _

variable {documentBytes}

theorem run (time : Nat) : Run documentBytes emptyRepository
    (timeline.logUpTo documentBytes time) (timeline.stateAt documentBytes time) := by
  obtain ⟨log, hlog, hrun⟩ := timeline.run_from documentBytes 0 time
  rw [Nat.zero_add] at hlog hrun
  rw [hlog]
  exact hrun

theorem keyed (time : Nat) : Keyed (timeline.stateAt documentBytes time).value :=
  (run time).keyed fun _ _ hnone => nomatch hnone

theorem poisoned (time : Nat) : (timeline.stateAt documentBytes time).poisoned = false :=
  (run time).poisoned rfl

/-- While a project comes back under the tag it had, it has not changed. -/
theorem unchanged (hfresh : timeline.FreshIds documentBytes) {key : ProjectKey}
    {first middle last : Nat} (hle : first ≤ middle) (hle' : middle ≤ last)
    {stored latest : StoredProject D}
    (hfirst : (timeline.stateAt documentBytes first).value.lookup key = some stored)
    (hlast : (timeline.stateAt documentBytes last).value.lookup key = some latest)
    (htag : stored.document.etag = latest.document.etag) :
    (timeline.stateAt documentBytes middle).value.lookup key = some stored := by
  obtain ⟨create, hcreate, hcreates⟩ := (run first).created hfirst
  have hsegment : ∀ {start finish : Nat}, first ≤ start → start ≤ finish →
      ∀ {found}, (timeline.stateAt documentBytes finish).value.lookup key = some found →
      ∃ before, (timeline.stateAt documentBytes start).value.lookup key = some before ∧
        (found = before ∨ before.version < found.version) := by
    intro start finish hstart hfinish found hfound
    obtain ⟨steps, rfl⟩ := Nat.exists_eq_add_of_le hfinish
    obtain ⟨earlier, rfl⟩ := Nat.exists_eq_add_of_le hstart
    obtain ⟨before, hbefore, -⟩ := timeline.run_from documentBytes first earlier
    obtain ⟨log, hlog, hrun⟩ := timeline.run_from documentBytes (first + earlier) steps
    refine hrun.same_or_later (fun entry hentry hagain => ?_) hfound
    have hpairwise := hfresh (first + earlier + steps)
    rw [hlog, hbefore] at hpairwise
    exact (List.pairwise_append.mp hpairwise).2.2 create (List.mem_append_left _ hcreate) entry
      hentry key hcreates hagain
  obtain ⟨current, hcurrent, hlater⟩ := hsegment hle hle' hlast
  obtain ⟨before, hbefore, hearlier⟩ := hsegment le_rfl hle hcurrent
  obtain rfl : stored = before := Option.some.inj (hfirst.symm.trans hbefore)
  rw [((keyed first) key stored hfirst).2.2, ((keyed last) key latest hlast).2.2] at htag
  have hversion := projectEtag_injective htag
  rcases hearlier with rfl | hearlier
  · exact hcurrent
  · rcases hlater with rfl | hlater <;> omega

/-- A call that fails leaves the store as it was. -/
theorem stateAt_of_err {time : Nat} {failure : RepositoryError}
    (h : timeline.answerAt documentBytes time = .err failure) :
    timeline.stateAt documentBytes (time + 1) = timeline.stateAt documentBytes time := by
  by_cases hdown : timeline.isDown time = true
  · rw [stateAt, if_pos hdown]
  · have hchange := change documentBytes (Bool.eq_false_of_not_eq_true hdown)
    rw [h] at hchange
    exact hchange.eq_of_err

theorem isDown_of_ok {time : Nat} {answer : Answer D}
    (h : timeline.answerAt documentBytes time = .ok answer) : timeline.isDown time = false := by
  by_contra hdown
  rw [answerAt, if_pos (Bool.eq_true_of_not_eq_false hdown)] at h
  cases h

/-- What a successful update does. -/
theorem of_update {time : Nat} {projectId : Uuid} {ifMatch : String}
    {project : EditableProject D} {revision : Option (CalculationRevision D)} {answer : Answer D}
    (hcall : (timeline.event time).call = .update projectId ifMatch project revision)
    (hanswer : timeline.answerAt documentBytes time = .ok answer) :
    ∃ stored timestamp,
      let document := revisedDocument stored.document project revision timestamp
        (projectEtag (stored.version + 1))
      (timeline.stateAt documentBytes time).value.lookup
        ((timeline.event time).ownerId, projectId) = some stored ∧
      stored.document.etag = ifMatch ∧
      (timeline.stateAt documentBytes (time + 1)).value.lookup
        ((timeline.event time).ownerId, projectId) = some ⟨document, stored.version + 1⟩ ∧
      answer = .document document := by
  have hchange := change documentBytes (isDown_of_ok hanswer)
  rw [hanswer] at hchange
  generalize timeline.stateAt documentBytes (time + 1) = after at hchange
  cases hchange with
  | observed _ noUpdate => exact absurd hcall (noUpdate _ _ _ _)
  | created call => rw [hcall] at call; cases call
  | deleted call => rw [hcall] at call; cases call
  | updated call found etag =>
      rw [hcall] at call
      cases call
      exact ⟨_, _, found, etag, HashMap.lookup_replace _ _ (HashMap.mem_of_lookup found), rfl⟩

/-- Updates under one tag of a project succeed once. -/
theorem update_once (hfresh : timeline.FreshIds documentBytes) {first second : Nat}
    {key : ProjectKey} {ifMatch : String}
    (hfirst : (Entry.mk (timeline.event first) (timeline.answerAt documentBytes first)).Updates key
      ifMatch)
    (hsecond : (Entry.mk (timeline.event second)
      (timeline.answerAt documentBytes second)).Updates key ifMatch) : first = second := by
  wlog hlt : first < second generalizing first second with hsym
  · rcases Nat.lt_or_eq_of_le (Nat.le_of_not_lt hlt) with hgt | heq
    · exact (hsym hsecond hfirst hgt).symm
    · exact heq.symm
  have hentry : ∀ {entry time}, timeline.answerAt documentBytes entry = .ok time →
      timeline.logUpTo documentBytes (entry + 1) = timeline.logUpTo documentBytes entry ++
        [⟨timeline.event entry, timeline.answerAt documentBytes entry⟩] := by
    intro entry time hanswer
    rw [logUpTo, if_neg (by rw [isDown_of_ok hanswer]; exact Bool.false_ne_true)]
  obtain ⟨answer, hanswer⟩ := hfirst.2.2
  obtain ⟨answer', hanswer'⟩ := hsecond.2.2
  obtain ⟨steps, rfl⟩ := Nat.exists_eq_add_of_le (Nat.succ_le_of_lt hlt)
  obtain ⟨log, hlog, -⟩ := timeline.run_from documentBytes (first + 1) steps
  have honce := (run (first + 1 + steps + 1)).update_once (hfresh _)
  rw [hentry hanswer', hlog, hentry hanswer] at honce
  refine absurd hsecond ((List.pairwise_append.mp honce).2.2 _ ?_ _ List.mem_cons_self key ifMatch
    hfirst)
  exact List.mem_append_left _ (List.mem_append_right _ List.mem_cons_self)

/-- A read finds the store out of reach, no project, or the project as it is stored. -/
theorem Served.of_get {time : Nat} {ownerId : String} {projectId : Uuid}
    {answer : Outcome RepositoryError (Answer D)}
    (h : timeline.Served documentBytes time (ownerId, .get projectId) answer) :
    (timeline.isDown time = true ∧ answer = .err .unavailable) ∨
    (timeline.isDown time = false ∧ match (timeline.stateAt documentBytes time).value.lookup
        (ownerId, projectId) with
      | some stored => answer = .ok (.document stored.document)
      | none => answer = .err .notFound) := by
  obtain ⟨rfl, hcall, rfl⟩ := h
  rw [answerAt]
  by_cases hdown : timeline.isDown time = true
  · exact .inl ⟨hdown, if_pos hdown⟩
  · refine .inr ⟨Bool.eq_false_of_not_eq_true hdown, ?_⟩
    rw [if_neg hdown]
    simp only [perform, hcall, get, RwLock.withRead, poisoned, Bool.false_eq_true, if_false,
      getLocked]
    cases (timeline.stateAt documentBytes time).value.lookup
      ((timeline.event time).ownerId, projectId) <;> rfl

/-- A read leaves the store as it was. -/
theorem stateAt_of_get {time : Nat} {projectId : Uuid}
    (hcall : (timeline.event time).call = .get projectId) :
    timeline.stateAt documentBytes (time + 1) = timeline.stateAt documentBytes time := by
  rw [stateAt]
  by_cases hdown : timeline.isDown time = true
  · rw [if_pos hdown]
  · rw [if_neg hdown]
    simp only [perform, hcall]

end Timeline

end TcoCalculator.ProjectRepository
