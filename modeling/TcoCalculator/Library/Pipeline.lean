/-
A body that is read while it is received: one side takes chunks from a source and sends
them through a channel of bounded length, the other side reads the items one by one and
may decide before the end.
-/
import Mathlib.Data.List.Basic
import Mathlib.Logic.Relation

namespace TcoCalculator.Pipeline

variable {α ρ : Type}

/-- What a reader decides of the items that it has seen, before the end or at it. -/
structure Reader (α ρ : Type) where
  early : List α → Option ρ
  final : List α → ρ

/-- What the reader decides is the verdict on the whole, whatever it has not seen. -/
structure Reader.Decides (reader : Reader α ρ) (verdict : List α → ρ) : Prop where
  early : ∀ seen rest result, reader.early seen = some result → verdict (seen ++ rest) = result
  final : ∀ items, reader.final items = verdict items

/-- Why a body can not be received. -/
inductive Failure where
  | failed
  | tooLarge
  deriving DecidableEq, Repr

/-- Why the sender stopped. -/
inductive Stop where
  | closed
  | broken (failure : Failure)
  deriving DecidableEq, Repr

inductive Sender (α : Type) where
  | receiving
  | sending (chunk : List α)
  | stopped (stop : Stop)

/-- The chunks still to come, where none is a failure of the source, and both sides. -/
structure Pipe (α ρ : Type) where
  pending : List (Option (List α))
  received : Nat
  sender : Sender α
  channel : List (List α)
  current : List α
  seen : List α
  decided : Option ρ

def Pipe.start (source : List (Option (List α))) : Pipe α ρ where
  pending := source
  received := 0
  sender := .receiving
  channel := []
  current := []
  seen := []
  decided := none

section Steps

variable (capacity limit : Nat) (reader : Reader α ρ)

/-- A step of either side.  The channel is gone once the reader has decided. -/
inductive Step : Pipe α ρ → Pipe α ρ → Prop
  | receive {pipe : Pipe α ρ} {chunk : List α} {rest : List (Option (List α))}
      (receiving : pipe.sender = .receiving) (pending : pipe.pending = some chunk :: rest)
      (fits : pipe.received + chunk.length ≤ limit) :
      Step pipe { pipe with
        pending := rest
        received := pipe.received + chunk.length
        sender := .sending chunk }
  | refuse {pipe : Pipe α ρ} {chunk : List α} {rest : List (Option (List α))}
      (receiving : pipe.sender = .receiving) (pending : pipe.pending = some chunk :: rest)
      (large : limit < pipe.received + chunk.length) :
      Step pipe { pipe with sender := .stopped (.broken .tooLarge) }
  | fail {pipe : Pipe α ρ} {rest : List (Option (List α))}
      (receiving : pipe.sender = .receiving) (pending : pipe.pending = none :: rest) :
      Step pipe { pipe with sender := .stopped (.broken .failed) }
  | close {pipe : Pipe α ρ} (receiving : pipe.sender = .receiving) (pending : pipe.pending = []) :
      Step pipe { pipe with sender := .stopped .closed }
  | send {pipe : Pipe α ρ} {chunk : List α} (sending : pipe.sender = .sending chunk)
      (undecided : pipe.decided = none) (room : pipe.channel.length < capacity) :
      Step pipe { pipe with channel := pipe.channel ++ [chunk], sender := .receiving }
  | giveUp {pipe : Pipe α ρ} {chunk : List α} (sending : pipe.sender = .sending chunk)
      (decided : pipe.decided ≠ none) : Step pipe { pipe with sender := .stopped .closed }
  | decide {pipe : Pipe α ρ} {result : ρ} (undecided : pipe.decided = none)
      (early : reader.early pipe.seen = some result) :
      Step pipe { pipe with channel := [], current := [], decided := some result }
  | read {pipe : Pipe α ρ} {item : α} {rest : List α} (undecided : pipe.decided = none)
      (early : reader.early pipe.seen = none) (current : pipe.current = item :: rest) :
      Step pipe { pipe with current := rest, seen := pipe.seen ++ [item] }
  | take {pipe : Pipe α ρ} {chunk : List α} {rest : List (List α)}
      (undecided : pipe.decided = none) (early : reader.early pipe.seen = none)
      (current : pipe.current = []) (channel : pipe.channel = chunk :: rest) :
      Step pipe { pipe with channel := rest, current := chunk }
  | finish {pipe : Pipe α ρ} {stop : Stop} (undecided : pipe.decided = none)
      (early : reader.early pipe.seen = none) (current : pipe.current = [])
      (channel : pipe.channel = []) (stopped : pipe.sender = .stopped stop) :
      Step pipe { pipe with decided := some (reader.final pipe.seen) }

abbrev Reaches : Pipe α ρ → Pipe α ρ → Prop :=
  Relation.ReflTransGen (Step capacity limit reader)

/-- Both sides have ended. -/
def Ended (pipe : Pipe α ρ) (stop : Stop) (result : ρ) : Prop :=
  pipe.sender = .stopped stop ∧ pipe.decided = some result

/-- The whole body, received before it is read. -/
def receiveAll (limit : Nat) : List (Option (List α)) → List α → Except Failure (List α)
  | [], body => .ok body
  | none :: _, _ => .error .failed
  | some chunk :: rest, body =>
      if limit - body.length < chunk.length then .error .tooLarge
      else receiveAll limit rest (body ++ chunk)

end Steps

/-! ### Progress -/

section Progress

variable {capacity limit : Nat} {reader : Reader α ρ} {pipe after : Pipe α ρ}

/-- Unless both sides have ended one of them can go on. -/
theorem exists_step (hcapacity : 0 < capacity)
    (h : ¬ ∃ stop result, Ended pipe stop result) :
    ∃ after, Step capacity limit reader pipe after := by
  have hreceives : pipe.sender = .receiving → ∃ after, Step capacity limit reader pipe after := by
    intro hreceiving
    cases hpending : pipe.pending with
    | nil => exact ⟨_, .close hreceiving hpending⟩
    | cons event rest =>
        cases event with
        | none => exact ⟨_, .fail hreceiving hpending⟩
        | some chunk =>
            rcases Nat.lt_or_ge limit (pipe.received + chunk.length) with hlarge | hfits
            · exact ⟨_, .refuse hreceiving hpending hlarge⟩
            · exact ⟨_, .receive hreceiving hpending hfits⟩
  cases hdecided : pipe.decided with
  | some result =>
      cases hsender : pipe.sender with
      | receiving => exact hreceives hsender
      | sending chunk => exact ⟨_, .giveUp hsender (by simp [hdecided])⟩
      | stopped stop => exact absurd ⟨stop, result, hsender, hdecided⟩ h
  | none =>
      cases hearly : reader.early pipe.seen with
      | some result => exact ⟨_, .decide hdecided hearly⟩
      | none =>
          cases hcurrent : pipe.current with
          | cons item rest => exact ⟨_, .read hdecided hearly hcurrent⟩
          | nil =>
              cases hchannel : pipe.channel with
              | cons chunk rest => exact ⟨_, .take hdecided hearly hcurrent hchannel⟩
              | nil =>
                  -- The reader waits, so the sender must be able to go on.
                  cases hsender : pipe.sender with
                  | receiving => exact hreceives hsender
                  | sending chunk => exact ⟨_, .send hsender hdecided (by simpa [hchannel])⟩
                  | stopped stop =>
                      exact ⟨_, .finish hdecided hearly hcurrent hchannel hsender⟩

/-- What there is left to do, at most. -/
def pendingWork : List (Option (List α)) → Nat
  | [] => 0
  | none :: rest => pendingWork rest
  | some chunk :: rest => chunk.length + 4 + pendingWork rest

def senderWork : Sender α → Nat
  | .receiving => 1
  | .sending chunk => chunk.length + 4
  | .stopped _ => 0

def channelWork (channel : List (List α)) : Nat :=
  channel.flatten.length + 2 * channel.length

def work (pipe : Pipe α ρ) : Nat :=
  pendingWork pipe.pending + senderWork pipe.sender + channelWork pipe.channel +
    pipe.current.length + if pipe.decided.isSome then 0 else 1

theorem Step.work_lt (h : Step capacity limit reader pipe after) : work after < work pipe := by
  cases h with
  | receive receiving pending fits =>
      simp only [work, receiving, pending, pendingWork, senderWork]
      omega
  | refuse receiving => simp only [work, receiving, senderWork]; omega
  | fail receiving => simp only [work, receiving, senderWork]; omega
  | close receiving => simp only [work, receiving, senderWork]; omega
  | send sending =>
      simp only [work, sending, senderWork, channelWork, List.flatten_append,
        List.flatten_singleton, List.length_append, List.length_singleton]
      omega
  | giveUp sending => simp only [work, sending, senderWork]; omega
  | decide undecided =>
      simp only [work, undecided, channelWork, List.flatten_nil, List.length_nil,
        Option.isSome_some, Option.isSome_none, if_true, Bool.false_eq_true, if_false]
      omega
  | read undecided early current =>
      simp only [work, current, List.length_cons]
      omega
  | take undecided early current channel =>
      simp only [work, current, channel, channelWork, List.flatten_cons, List.length_append,
        List.length_cons, List.length_nil]
      omega
  | finish undecided =>
      simp only [work, undecided, Option.isSome_some, Option.isSome_none, if_true,
        Bool.false_eq_true, if_false]
      omega

/-- There is no run without an end. -/
theorem not_endless (run : Nat → Pipe α ρ) :
    ¬ ∀ time, Step capacity limit reader (run time) (run (time + 1)) := by
  intro hsteps
  have hwork : ∀ time, work (run time) + time ≤ work (run 0) := by
    intro time
    induction time with
    | zero => exact Nat.le_refl _
    | succ time ih =>
        have := (hsteps time).work_lt
        omega
  have := hwork (work (run 0) + 1)
  omega

/-- Every run can go on until both sides have ended. -/
theorem exists_ended (hcapacity : 0 < capacity) (pipe : Pipe α ρ) :
    ∃ last stop result, Reaches capacity limit reader pipe last ∧ Ended last stop result := by
  induction hwork : work pipe using Nat.strongRecOn generalizing pipe with
  | _ left ih =>
      by_cases hended : ∃ stop result, Ended pipe stop result
      · obtain ⟨stop, result, hended⟩ := hended
        exact ⟨pipe, stop, result, .refl, hended⟩
      · obtain ⟨next, hstep⟩ : ∃ next, Step capacity limit reader pipe next :=
          exists_step hcapacity hended
        obtain ⟨last, stop, result, hreaches, hlast⟩ :=
          ih (work next) (hwork ▸ hstep.work_lt) next rfl
        exact ⟨last, stop, result, .head hstep hreaches, hlast⟩

end Progress

/-! ### What comes out -/

section Agreement

def inHand : Sender α → List α
  | .sending chunk => chunk
  | .receiving | .stopped _ => []

/-- Why the sender has stopped where it did. -/
inductive Stopped (limit : Nat) (pipe : Pipe α ρ) : Stop → Prop
  | closed (pending : pipe.pending = []) : Stopped limit pipe .closed
  | gaveUp (decided : pipe.decided ≠ none) : Stopped limit pipe .closed
  | failed {rest : List (Option (List α))} (pending : pipe.pending = none :: rest) :
      Stopped limit pipe (.broken .failed)
  | tooLarge {chunk : List α} {rest : List (Option (List α))}
      (pending : pipe.pending = some chunk :: rest)
      (large : limit < pipe.received + chunk.length) :
      Stopped limit pipe (.broken .tooLarge)

/-- How the reader came to decide, all chunks received so far being these. -/
inductive DecidedBy (reader : Reader α ρ) (chunks : List (List α)) (pipe : Pipe α ρ)
    (result : ρ) : Prop
  | early (seen rest : List α) (received : chunks.flatten = seen ++ rest)
      (early : reader.early seen = some result)
  | final (stop : Stop) (stopped : pipe.sender = .stopped stop)
      (whole : stop = .closed → pipe.pending = [] ∧ reader.final chunks.flatten = result)

/-- Every item received is seen, on its way or in hand, as long as the reader reads on. -/
structure Carries (limit : Nat) (reader : Reader α ρ) (source : List (Option (List α)))
    (chunks : List (List α)) (pipe : Pipe α ρ) : Prop where
  source : source = chunks.map some ++ pipe.pending
  received : pipe.received = chunks.flatten.length
  fits : pipe.received ≤ limit
  unread : pipe.decided = none →
    chunks.flatten = pipe.seen ++ pipe.current ++ pipe.channel.flatten ++ inHand pipe.sender
  decided : ∀ result, pipe.decided = some result → DecidedBy reader chunks pipe result
  stopped : ∀ stop, pipe.sender = .stopped stop → Stopped limit pipe stop

variable {capacity limit : Nat} {reader : Reader α ρ} {source : List (Option (List α))}
  {chunks : List (List α)} {pipe after : Pipe α ρ}

theorem carries_start : Carries limit reader source [] (Pipe.start source) where
  source := rfl
  received := rfl
  fits := Nat.zero_le _
  unread _ := rfl
  decided _ hdecided := by cases hdecided
  stopped _ hstopped := by cases hstopped

/-- A decision does not depend on a sender that was still at work. -/
theorem DecidedBy.early_of {result : ρ} (h : DecidedBy reader chunks pipe result)
    (hsender : ∀ stop, pipe.sender ≠ .stopped stop) :
    ∃ seen rest, chunks.flatten = seen ++ rest ∧ reader.early seen = some result := by
  cases h with
  | early seen rest received early => exact ⟨seen, rest, received, early⟩
  | final stop stopped => exact absurd stopped (hsender stop)

/-- Before the decision a sender stops for the sake of the source alone. -/
theorem Stopped.of_undecided {stop : Stop} (h : Stopped limit pipe stop)
    (hundecided : pipe.decided = none) (hpending : after.pending = pipe.pending)
    (hreceived : after.received = pipe.received) : Stopped limit after stop := by
  cases h with
  | closed pending => exact .closed (hpending.trans pending)
  | gaveUp decided => exact absurd hundecided decided
  | failed pending => exact .failed (hpending.trans pending)
  | tooLarge pending large => exact .tooLarge (hpending.trans pending) (hreceived ▸ large)

/-- A sender that stops, for a reason, leaves everything else as it is. -/
theorem Carries.stop {stop : Stop} (h : Carries limit reader source chunks pipe)
    (hsender : ∀ stop, pipe.sender ≠ .stopped stop)
    (hhand : pipe.decided = none → inHand pipe.sender = [])
    (hstopped : Stopped limit { pipe with sender := .stopped stop } stop) :
    Carries limit reader source chunks { pipe with sender := .stopped stop } where
  source := h.source
  received := h.received
  fits := h.fits
  unread hdecided := by
    rw [h.unread hdecided, hhand hdecided]
    rfl
  decided result hdecided := by
    obtain ⟨seen, rest, hreceived, hearly⟩ := (h.decided result hdecided).early_of hsender
    exact .early seen rest hreceived hearly
  stopped other hother := by
    cases hother
    exact hstopped

theorem Carries.step (h : Carries limit reader source chunks pipe)
    (hstep : Step capacity limit reader pipe after) :
    ∃ chunks, Carries limit reader source chunks after := by
  cases hstep with
  | @receive chunk rest receiving pending fits =>
      refine ⟨chunks ++ [chunk], ?_, ?_, fits, ?_, ?_, ?_⟩
      · simp [h.source, pending]
      · simp [h.received]
      · intro hdecided
        simp [h.unread hdecided, receiving, inHand]
      · intro result hdecided
        obtain ⟨seen, unseen, hreceived, hearly⟩ :=
          (h.decided result hdecided).early_of (by simp [receiving])
        exact .early seen (unseen ++ chunk) (by simp [hreceived]) hearly
      · intro stop hstop
        cases hstop
  | refuse receiving pending large =>
      exact ⟨chunks, h.stop (by simp [receiving]) (by simp [receiving, inHand])
        (.tooLarge pending large)⟩
  | fail receiving pending =>
      exact ⟨chunks, h.stop (by simp [receiving]) (by simp [receiving, inHand]) (.failed pending)⟩
  | close receiving pending =>
      exact ⟨chunks, h.stop (by simp [receiving]) (by simp [receiving, inHand]) (.closed pending)⟩
  | giveUp sending decided =>
      exact ⟨chunks, h.stop (by simp [sending]) (absurd · decided) (.gaveUp decided)⟩
  | @send chunk sending undecided room =>
      refine ⟨chunks, h.source, h.received, h.fits, ?_, ?_, ?_⟩
      · intro hdecided
        simp [h.unread hdecided, sending, inHand]
      · intro result hdecided
        cases undecided.symm.trans hdecided
      · intro stop hstop
        cases hstop
  | @decide result undecided early =>
      refine ⟨chunks, h.source, h.received, h.fits, ?_, ?_, ?_⟩
      · intro hdecided
        cases hdecided
      · intro other hdecided
        cases hdecided
        refine .early pipe.seen
          (pipe.current ++ (pipe.channel.flatten ++ inHand pipe.sender)) ?_ early
        rw [h.unread undecided, List.append_assoc, List.append_assoc]
      · intro stop hstop
        exact (h.stopped stop hstop).of_undecided undecided rfl rfl
  | read undecided early current =>
      refine ⟨chunks, h.source, h.received, h.fits, ?_, ?_, fun stop hstop => ?_⟩
      · intro hdecided
        simp [h.unread hdecided, current]
      · intro result hdecided
        cases undecided.symm.trans hdecided
      · exact (h.stopped stop hstop).of_undecided undecided rfl rfl
  | take undecided early current channel =>
      refine ⟨chunks, h.source, h.received, h.fits, ?_, ?_, fun stop hstop => ?_⟩
      · intro hdecided
        simp [h.unread hdecided, current, channel]
      · intro result hdecided
        cases undecided.symm.trans hdecided
      · exact (h.stopped stop hstop).of_undecided undecided rfl rfl
  | @finish stop undecided early current channel stopped =>
      refine ⟨chunks, h.source, h.received, h.fits, ?_, ?_, ?_⟩
      · intro hdecided
        cases hdecided
      · intro result hdecided
        cases hdecided
        refine .final stop stopped ?_
        rintro rfl
        have hwhole : chunks.flatten = pipe.seen := by
          simp [h.unread undecided, current, channel, stopped, inHand]
        refine ⟨?_, by rw [hwhole]⟩
        cases h.stopped _ stopped with
        | closed pending => exact pending
        | gaveUp decided => exact absurd undecided decided
      · intro other hother
        cases stopped.symm.trans hother
        exact (h.stopped stop stopped).of_undecided undecided rfl rfl

theorem exists_carries (h : Reaches capacity limit reader (Pipe.start source) pipe) :
    ∃ chunks, Carries limit reader source chunks pipe := by
  induction h with
  | refl => exact ⟨[], carries_start⟩
  | tail _ hstep ih =>
      obtain ⟨chunks, hcarries⟩ := ih
      exact hcarries.step hstep

variable {body start : List α}

theorem receiveAll_append (hfits : (body ++ chunks.flatten).length ≤ limit) :
    receiveAll limit (chunks.map some ++ source) body =
      receiveAll limit source (body ++ chunks.flatten) := by
  induction chunks generalizing body with
  | nil => simp
  | cons chunk chunks ih =>
      have hroom : ¬ limit - body.length < chunk.length := by
        simp only [List.flatten_cons, List.length_append] at hfits
        omega
      rw [List.map_cons, List.cons_append, receiveAll, if_neg hroom, ih (by simpa using hfits)]
      simp

/-- Nothing of a body is lost, and nothing put before it. -/
theorem receiveAll_extends (h : receiveAll limit source start = .ok body) :
    ∃ more, body = start ++ more := by
  induction source generalizing start with
  | nil =>
      cases h
      exact ⟨[], (List.append_nil _).symm⟩
  | cons event rest ih =>
      cases event with
      | none => cases h
      | some chunk =>
          rw [receiveAll] at h
          split at h
          · cases h
          · obtain ⟨more, hbody⟩ := ih h
            exact ⟨chunk ++ more, by rw [hbody, List.append_assoc]⟩

variable {verdict : List α → ρ} {stop : Stop} {result : ρ}

/-- A decision holds of every body that starts as the chunks received do, unless the source
broke off before it was made. -/
theorem Carries.verdict_eq (hdecides : reader.Decides verdict)
    (h : Carries limit reader source chunks pipe) (hended : Ended pipe .closed result) :
    (pipe.pending = [] ∧ verdict chunks.flatten = result) ∨
      ∀ more, verdict (chunks.flatten ++ more) = result := by
  cases h.decided result hended.2 with
  | early seen rest received early =>
      refine .inr fun more => ?_
      rw [received, List.append_assoc]
      exact hdecides.early seen (rest ++ more) result early
  | final stop stopped whole =>
      cases stopped.symm.trans hended.1
      obtain ⟨hpending, hfinal⟩ := whole rfl
      exact .inl ⟨hpending, by rw [← hdecides.final, hfinal]⟩

/-- Where the body can be received as a whole, what is decided is the verdict on it; where it
can not, the sender found so, or the reader had decided whatever was still to come. -/
theorem ended_agrees (hdecides : reader.Decides verdict)
    (hreaches : Reaches capacity limit reader (Pipe.start source) pipe)
    (hended : Ended pipe stop result) :
    match receiveAll limit source [] with
    | .ok body => stop = .closed ∧ result = verdict body
    | .error failure => stop = .broken failure ∨ stop = .closed ∧
        ∃ chunks rest, source = List.map some chunks ++ rest ∧
          ∀ more, verdict (chunks.flatten ++ more) = result := by
  obtain ⟨chunks, h⟩ := exists_carries hreaches
  have hwhole : receiveAll limit source [] = receiveAll limit pipe.pending chunks.flatten := by
    rw [h.source, receiveAll_append (by simpa [h.received] using h.fits), List.nil_append]
  cases h.stopped stop hended.1 with
  | failed pending =>
      rw [hwhole, pending]
      exact .inl rfl
  | @tooLarge chunk rest pending large =>
      have hroom : limit - chunks.flatten.length < chunk.length := by
        rw [← h.received]
        exact Nat.sub_lt_left_of_lt_add h.fits large
      rw [hwhole, pending, receiveAll, if_pos hroom]
      exact .inl rfl
  | closed pending =>
      rw [hwhole, pending]
      cases h.verdict_eq hdecides hended with
      | inl hverdict => exact ⟨rfl, hverdict.2.symm⟩
      | inr hverdict => exact ⟨rfl, by simpa using (hverdict []).symm⟩
  | gaveUp _ =>
      have hverdict : pipe.pending = [] ∧ verdict chunks.flatten = result ∨
          ∀ more, verdict (chunks.flatten ++ more) = result := h.verdict_eq hdecides hended
      cases hreceived : receiveAll limit source [] with
      | error failure =>
          refine .inr ⟨rfl, chunks, pipe.pending, h.source, ?_⟩
          cases hverdict with
          | inl hend =>
              rw [hwhole, hend.1] at hreceived
              cases hreceived
          | inr hmore => exact hmore
      | ok body =>
          rw [hwhole] at hreceived
          obtain ⟨more, hbody⟩ := receiveAll_extends hreceived
          refine ⟨rfl, ?_⟩
          cases hverdict with
          | inl hend =>
              rw [hend.1] at hreceived
              cases hreceived
              exact hend.2.symm
          | inr hmore => rw [hbody, hmore more]

end Agreement

end TcoCalculator.Pipeline
