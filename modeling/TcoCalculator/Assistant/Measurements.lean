/-
Storage measurements in the arguments of a tool: which of them are converted, and
when a conversion is exact, rounds or crashes.
-/
import TcoCalculator.Assistant.ProjectViewRedaction
import TcoCalculator.Domain.Decimal96

namespace TcoCalculator.Assistant

open DecimalArith

section Reached

variable {D : Type} [DecimalArith D] (library : JsonLibrary D)

/-! ### The measurements of a value -/

mutual

/-- The objects under the storage fields, in the order in which they are rewritten. -/
def storageMeasurements : Json → List Json
  | .array items => itemMeasurements items
  | .object fields => fieldMeasurements fields
  | .null | .bool _ | .number _ | .string _ => []

def itemMeasurements : List Json → List Json
  | [] => []
  | item :: rest => storageMeasurements item ++ itemMeasurements rest

def fieldMeasurements : List (String × Json) → List Json
  | [] => []
  | (field, value) :: rest =>
      (match value with
        | .object members =>
            if field ∈ storageMeasurementFields then [.object members]
            else storageMeasurements (.object members)
        | other => storageMeasurements other) ++ fieldMeasurements rest

end

/-- The measurements read before the first object that is none. -/
def readable : List Json → List (StorageMeasurement D)
  | [] => []
  | value :: rest => match library.measurementFromValue value with
      | .ok measurement => measurement :: readable rest
      | .error _ => []

/-- The tools whose arguments may have measurements. -/
def normalizedTools : List String :=
  ["validate_project_patch", "calculate_project_draft", "stage_project_patch",
    "stage_new_project_draft"]

/-- The measurements that a text brings to conversion. -/
def measurementsIn (arguments : String) : List (StorageMeasurement D) :=
  match library.valueFromStr arguments with
  | .ok value => readable library (storageMeasurements value)
  | .error _ => []

/-- The measurements that the arguments of a tool bring to conversion. -/
def measurementsReached (definition : ToolDefinition) (arguments : String) :
    List (StorageMeasurement D) :=
  if definition.name ∈ normalizedTools then
    measurementsIn library (if isBlank arguments then "\x7b\x7d" else arguments)
  else []

/-! ### Conversion of all -/

/-- The measurements converted one after the other, the values forgotten. -/
def convertAll : List Json → Outcome InvalidToolArguments Unit
  | [] => .ok ()
  | value :: rest => do
      let _ ← normalizedMeasurement library value
      convertAll rest

variable {library}

theorem convertAll_append (values others : List Json) :
    convertAll library (values ++ others) =
      (do let _ ← convertAll library values; convertAll library others) := by
  induction values with
  | nil => rfl
  | cons value rest ih =>
      rw [List.cons_append, convertAll, convertAll, ih]
      cases normalizedMeasurement library value <;> rfl

mutual

/-- Rewriting a value ends as the conversion of its measurements does. -/
theorem normalizeStorageMeasurements_ends (value : Json) :
    (normalizeStorageMeasurements library value).map (fun _ => ()) =
      convertAll library (storageMeasurements value) := by
  match value with
  | .array items =>
      rw [normalizeStorageMeasurements, storageMeasurements, ← normalizeItems_ends items]
      cases normalizeItems library items <;> rfl
  | .object fields =>
      rw [normalizeStorageMeasurements, storageMeasurements, ← normalizeFields_ends fields]
      cases normalizeFields library fields <;> rfl
  | .null => rfl
  | .bool b => rfl
  | .number n => rfl
  | .string s => rfl

theorem normalizeItems_ends (items : List Json) :
    (normalizeItems library items).map (fun _ => ()) =
      convertAll library (itemMeasurements items) := by
  match items with
  | [] => rfl
  | item :: rest =>
      rw [itemMeasurements, convertAll_append, ← normalizeStorageMeasurements_ends item,
        ← normalizeItems_ends rest, normalizeItems]
      cases normalizeStorageMeasurements library item with
      | ok value => cases normalizeItems library rest <;> rfl
      | err error => rfl
      | panic => rfl

theorem normalizeFields_ends (fields : List (String × Json)) :
    (normalizeFields library fields).map (fun _ => ()) =
      convertAll library (fieldMeasurements fields) := by
  match fields with
  | [] => rfl
  | (field, value) :: rest =>
      have htail := normalizeFields_ends rest
      -- Only an object under a storage field is converted; all else is searched.
      cases value with
      | object members =>
          rw [fieldMeasurements, convertAll_append, ← htail, normalizeFields]
          by_cases hstorage : field ∈ storageMeasurementFields
          · rw [if_pos hstorage, if_pos hstorage, convertAll, convertAll]
            cases normalizedMeasurement library (.object members) with
            | ok gb => cases normalizeFields library rest <;> rfl
            | err error => rfl
            | panic => rfl
          · rw [if_neg hstorage, if_neg hstorage,
              ← normalizeStorageMeasurements_ends (.object members)]
            cases normalizeStorageMeasurements library (.object members) with
            | ok value => cases normalizeFields library rest <;> rfl
            | err error => rfl
            | panic => rfl
      | array items =>
          rw [fieldMeasurements, convertAll_append, ← htail, normalizeFields]
          · rw [← normalizeStorageMeasurements_ends (.array items)]
            cases normalizeStorageMeasurements library (.array items) with
            | ok value => cases normalizeFields library rest <;> rfl
            | err error => rfl
            | panic => rfl
          · exact nofun
          · exact nofun
      | null =>
          rw [fieldMeasurements, convertAll_append, ← htail, normalizeFields]
          · cases normalizeFields library rest <;> rfl
          · exact nofun
          · exact nofun
      | bool b =>
          rw [fieldMeasurements, convertAll_append, ← htail, normalizeFields]
          · cases normalizeFields library rest <;> rfl
          · exact nofun
          · exact nofun
      | number n =>
          rw [fieldMeasurements, convertAll_append, ← htail, normalizeFields]
          · cases normalizeFields library rest <;> rfl
          · exact nofun
          · exact nofun
      | string s =>
          rw [fieldMeasurements, convertAll_append, ← htail, normalizeFields]
          · cases normalizeFields library rest <;> rfl
          · exact nofun
          · exact nofun

end

/-- A conversion returns a size or crashes. -/
theorem intoGb_eq_ok_or_panic (measurement : StorageMeasurement D) :
    (∃ gb, measurement.intoGb = .ok gb) ∨ measurement.intoGb = .panic := by
  unfold StorageMeasurement.intoGb
  cases measurement.unit with
  | gb => exact .inl ⟨_, rfl⟩
  | gib => exact .inl ⟨_, rfl⟩
  | tb | tib =>
      cases mul measurement.value (ofNat 1024) with
      | ok gb => exact .inl ⟨gb, rfl⟩
      | error fault => exact .inr rfl

theorem convertAll_ok {value : Json} {measurement : StorageMeasurement D}
    (h : library.measurementFromValue value = .ok measurement) (rest : List Json) :
    convertAll library (value :: rest) =
      (do let _ ← measurement.intoGb; convertAll library rest) := by
  rw [convertAll, normalizedMeasurement, h]
  cases hgb : measurement.intoGb with
  | ok gb => simp only [parsed, Bind.bind, Outcome.bind, hgb, pure]
  | err error => simp only [parsed, Bind.bind, Outcome.bind, hgb]
  | panic => simp only [parsed, Bind.bind, Outcome.bind, hgb]

/-- The conversion of all crashes exactly on a readable measurement that does. -/
theorem convertAll_ne_panic_iff (values : List Json) :
    convertAll library values ≠ .panic ↔
      ∀ measurement ∈ readable library values, measurement.intoGb ≠ .panic := by
  induction values with
  | nil => exact ⟨fun _ => nofun, fun _ => nofun⟩
  | cons value rest ih =>
      rw [readable]
      cases hread : library.measurementFromValue value with
      | error error =>
          rw [convertAll, normalizedMeasurement, hread]
          exact ⟨fun _ => nofun, fun _ => nofun⟩
      | ok measurement =>
          rw [convertAll_ok hread, List.forall_mem_cons, ← ih]
          obtain ⟨gb, hgb⟩ | hgb := intoGb_eq_ok_or_panic measurement
          · rw [hgb]
            exact ⟨fun h => ⟨nofun, h⟩, fun h => h.2⟩
          · rw [hgb]
            exact ⟨fun h => absurd rfl h, fun h => absurd rfl h.1⟩

theorem parsed_ne_panic {α : Type} (result : Except JsonError α) : parsed result ≠ .panic := by
  cases result with
  | ok value => exact nofun
  | error error => exact nofun

/-- A value is rewritten without a crash exactly when its measurements convert so. -/
theorem normalizeStorageMeasurements_ne_panic_iff (value : Json) :
    normalizeStorageMeasurements library value ≠ .panic ↔
      ∀ measurement ∈ readable library (storageMeasurements value),
        measurement.intoGb ≠ .panic := by
  rw [← convertAll_ne_panic_iff, ← normalizeStorageMeasurements_ends, ne_eq, ne_eq,
    Outcome.map_eq_panic]

theorem parseJsonInput_ne_panic_iff {α : Type} (fromValue : Json → Except JsonError α)
    (arguments : String) :
    parseJsonInputWithStorageNormalization library fromValue arguments ≠ .panic ↔
      ∀ measurement ∈ measurementsIn library arguments, measurement.intoGb ≠ .panic := by
  rw [parseJsonInputWithStorageNormalization, measurementsIn]
  cases library.valueFromStr arguments with
  | error error => exact ⟨fun _ => nofun, fun _ => nofun⟩
  | ok value =>
      rw [← normalizeStorageMeasurements_ne_panic_iff]
      exact not_congr (Outcome.bind_eq_panic_iff fun value => parsed_ne_panic (fromValue value))

omit [DecimalArith D] in
theorem applicationHelpInput_ne_panic (arguments : String) :
    applicationHelpInput library arguments ≠ .panic := by
  rw [applicationHelpInput, ne_eq, Outcome.bind_eq_panic_iff]
  · exact parsed_ne_panic _
  · intro input
    exact Outcome.ite_ne_panic nofun (Outcome.ite_ne_panic nofun nofun)

theorem stageProjectPatchInput_ne_panic_iff (arguments : String) :
    stageProjectPatchInput library arguments ≠ .panic ↔
      ∀ measurement ∈ measurementsIn library arguments, measurement.intoGb ≠ .panic := by
  rw [← parseJsonInput_ne_panic_iff library.stageProjectPatchFromValue, stageProjectPatchInput]
  apply not_congr
  apply Outcome.bind_eq_panic_iff
  intro input
  apply Outcome.lift_bind_ne_panic
  intro omissions
  apply Outcome.lift_bind_ne_panic
  exact fun uncertainties => nofun

theorem stageNewProjectDraftInput_ne_panic_iff (arguments : String) :
    stageNewProjectDraftInput library arguments ≠ .panic ↔
      ∀ measurement ∈ measurementsIn library arguments, measurement.intoGb ≠ .panic := by
  rw [← parseJsonInput_ne_panic_iff library.stageNewProjectDraftFromValue,
    stageNewProjectDraftInput]
  apply not_congr
  apply Outcome.bind_eq_panic_iff
  intro input
  apply Outcome.lift_bind_ne_panic
  intro omissions
  apply Outcome.lift_bind_ne_panic
  intro uncertainties
  split_ifs <;> exact nofun

/-- The arguments of a tool crash the host exactly by a measurement that overflows. -/
theorem parseInput_ne_panic_iff (definition : ToolDefinition) (arguments : String) :
    parseInput library definition arguments ≠ .panic ↔
      ∀ measurement ∈ measurementsReached library definition arguments,
        measurement.intoGb ≠ .panic := by
  unfold parseInput measurementsReached
  dsimp only
  generalize (if isBlank arguments then "\x7b\x7d" else arguments) = text
  -- The four tools of a patch or a draft normalize, the others do not.
  split
  case h_1 hname =>
      rw [if_neg (by rw [hname]; decide), ne_eq, Outcome.map_eq_panic]
      exact ⟨fun _ => nofun, fun _ => parsed_ne_panic _⟩
  case h_2 hname =>
      rw [if_neg (by rw [hname]; decide), ne_eq, Outcome.map_eq_panic]
      exact ⟨fun _ => nofun, fun _ => applicationHelpInput_ne_panic text⟩
  case h_3 hname =>
      rw [if_neg (by rw [hname]; decide), ne_eq, Outcome.map_eq_panic]
      exact ⟨fun _ => nofun, fun _ => parsed_ne_panic _⟩
  case h_4 hname =>
      rw [if_pos (by rw [hname]; decide), ne_eq, Outcome.map_eq_panic]
      exact parseJsonInput_ne_panic_iff library.projectPatchFromValue text
  case h_5 hname =>
      rw [if_pos (by rw [hname]; decide), ne_eq, Outcome.map_eq_panic]
      exact parseJsonInput_ne_panic_iff library.projectPatchFromValue text
  case h_6 hname =>
      rw [if_pos (by rw [hname]; decide), ne_eq, Outcome.map_eq_panic]
      exact stageProjectPatchInput_ne_panic_iff text
  case h_7 hname =>
      rw [if_pos (by rw [hname]; decide), ne_eq, Outcome.map_eq_panic]
      exact stageNewProjectDraftInput_ne_panic_iff text
  case h_8 hnone =>
      rw [if_neg (by simp_all [normalizedTools])]
      exact ⟨fun _ => nofun, fun _ => nofun⟩

end Reached

/-! ### Exact sizes -/

def StorageUnit.gbPerUnit : StorageUnit → ℕ
  | .gb | .gib => 1
  | .tb | .tib => 1024

namespace StorageMeasurement

variable (measurement : StorageMeasurement Decimal96)

/-- The size in GB as a number. -/
def sizeGb : ℚ := measurement.value.toRat * measurement.unit.gbPerUnit

/-- The size in GB has a decimal. -/
def HasGb : Prop := ∃ gb : Decimal96, gb.toRat = measurement.sizeGb

/-- The measurement becomes exactly its size in GB or is refused. -/
def ExactOrRefused : Prop :=
  (∃ gb, measurement.intoGb = .ok gb ∧ gb.toRat = measurement.sizeGb) ∨
    ∃ error, measurement.intoGb = .err error

/-- The conversion is exact on every size that has a decimal. -/
theorem exists_intoGb_of_hasGb (h : measurement.HasGb) :
    ∃ gb, measurement.intoGb = .ok gb ∧ gb.toRat = measurement.sizeGb := by
  obtain ⟨value, unit⟩ := measurement
  obtain ⟨gb, hgb⟩ := h
  have hfactor : (ofNat 1024 : Decimal96).toRat = 1024 := Decimal96.toRat_ofNat (by decide)
  have hscale : (ofNat 1024 : Decimal96).scale = 0 := by decide +kernel
  cases unit with
  | gb | gib => exact ⟨value, rfl, by simp [sizeGb, StorageUnit.gbPerUnit]⟩
  | tb | tib =>
      have hsize : value.toRat * 1024 = ((value.mantissa * 1024 : ℤ) : ℚ) / 10 ^ value.scale := by
        rw [Decimal96.toRat, div_mul_eq_mul_div]
        push_cast
        rfl
      have hgb : gb.toRat = value.toRat * 1024 := hgb
      obtain ⟨kept, hkept, hexact⟩ := gb.exists_of_toRat_eq value.scale_le (hgb.trans hsize)
      obtain ⟨result, hresult, hvalue⟩ :=
        Decimal96.rounded_exact roundsToNearest_roundHalfEven kept hkept
      have hmul : mul value (ofNat 1024 : Decimal96) = .ok result := by
        change Decimal96.arithmetic (value.toRat * _) (value.scale + _) = _
        rw [hfactor, hscale, ← hgb, ← hexact, add_zero, Decimal96.arithmetic_eq_ok]
        exact hresult
      refine ⟨result, ?_, ?_⟩
      · unfold intoGb
        dsimp only
        rw [hmul]
      · rw [hvalue, hexact]
        exact hgb

theorem exactOrRefused_iff : measurement.ExactOrRefused ↔ measurement.HasGb := by
  constructor
  · rintro (⟨gb, -, hvalue⟩ | ⟨error, herror⟩)
    · exact ⟨gb, hvalue⟩
    · obtain ⟨gb, hgb⟩ | hpanic := intoGb_eq_ok_or_panic measurement
      · rw [hgb] at herror
        cases herror
      · rw [hpanic] at herror
        cases herror
  · exact fun h => .inl (measurement.exists_intoGb_of_hasGb h)

end StorageMeasurement

namespace MeasurementWitness

def unitOf : String → Option StorageUnit
  | "gb" => some .gb
  | "gib" => some .gib
  | "tb" => some .tb
  | "tib" => some .tib
  | _ => none

def measurementOf : Json → Except JsonError (StorageMeasurement Decimal96)
  | .object [("unit", .string unit), ("value", .string value)] =>
      match unitOf unit, Decimal96.parse value with
      | some unit, some value => .ok ⟨value, unit⟩
      | none, _ => .error ⟨false, false, "unknown variant"⟩
      | some _, none => .error ⟨false, false, "invalid value: string"⟩
  | _ => .error ⟨false, false, "missing field"⟩

/-- A patch that gives a capacity in terabytes. -/
def capacityInTb (value : String) : Json :=
  .object [("capacity_gb", .object [("unit", .string "tb"), ("value", .string value)])]

/-- The JSON library on the text of one value. -/
def libraryOf (value : Json) : JsonLibrary Decimal96 :=
  { (ViewWitness.host (ViewWitness.document "SQL workload" none)).jsonLibrary with
    valueFromStr := fun text =>
      if text = value.render then .ok value else .error ⟨true, false, "expected value"⟩
    measurementFromValue := measurementOf }

def validateTool : ToolDefinition := ⟨"validate_project_patch", .readPlan, .read, .selected⟩

/-- As many digits as a decimal has, all but one after the point. -/
def digits28 : StorageMeasurement Decimal96 :=
  ⟨⟨2 ^ 96 - 1, 28, by decide, by decide⟩, .tb⟩

end MeasurementWitness

end TcoCalculator.Assistant
