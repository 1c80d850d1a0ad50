/-
What the price normalizers share: texts and numbers of a provider row, the
document a row was read from and the sets of meters a rate rests on.
-/
import TcoCalculator.Calculation.Arithmetic
import TcoCalculator.Domain.Project
import TcoCalculator.Pricing.Snapshot

namespace TcoCalculator

namespace ProviderRows

open DecimalArith PriceSnapshot

variable {D : Type} [DecimalArith D]

/-- The document a row was read from. -/
structure SourceIdentity where
  sourceUrl : String
  sourceVersion : Option String
  effectiveAt : Option String
  deriving DecidableEq

/-- A present text that is not blank. -/
def required (text : Option String) : Option String := text.filter fun value => !isBlank value

/-- `str::parse::<u32>`. -/
def parseU32 (text : String) : Option UInt32 :=
  let digits := match text.toList with
    | '+' :: rest => rest
    | all => all
  if digits.isEmpty || !digits.all Char.isDigit then none
  else
    let number := digits.foldl (fun n c => 10 * n + (c.toNat - 48)) 0
    if number < 2 ^ 32 then some (UInt32.ofNat number) else none

def stripSuffix (ending text : String) : Option String :=
  if ending.toList.isSuffixOf text.toList then
    some (String.ofList (text.toList.take (text.toList.length - ending.toList.length)))
  else none

def hasPrefix (lead text : String) : Bool := lead.toList.isPrefixOf text.toList

def hasSuffix (ending text : String) : Bool := ending.toList.isSuffixOf text.toList

/-- A price text: a JSON string's own, or any other JSON value as printed. -/
def nonnegativeDecimal (price : String) : Option D :=
  (parse price).filter fun number : D => 0 ≤ value number

def positiveDecimal (text : String) : Option D :=
  (parse text).filter fun number : D => 0 < value number

/-- `parse_memory`: a size such as "16 GiB". -/
def memoryGb (text : String) : Option D := (stripSuffix " GiB" text).bind positiveDecimal

def containsText (part text : String) : Bool :=
  text.toList.tails.any fun rest => part.toList.isPrefixOf rest

/-- One of the words between white space. -/
def containsWord (word text : String) : Bool :=
  (text.toList.splitOnP isWhiteSpace).any (· == word.toList)

def trim (text : String) : List Char :=
  ((text.toList.dropWhile isWhiteSpace).reverse.dropWhile isWhiteSpace).reverse

/-- The characters kept so far, last first, and whether a separator was last. -/
def tokenStep (state : List Char × Bool) (c : Char) : List Char × Bool :=
  if c.isAlphanum then (c.toLower :: state.1, false)
  else if !state.2 && !state.1.isEmpty then ('-' :: state.1, true)
  else state

/-- Lowercase letters and digits, anything else as single dashes between them. -/
def normalizeToken (text : String) : Option String :=
  let normalized :=
    (((trim text).foldl tokenStep ([], false)).1.dropWhile (· == '-')).reverse
  if normalized.isEmpty then none else some (String.ofList normalized)

def addMeter (meterId : String) (meterIds : List String) : List String :=
  sortedUnique (meterId :: meterIds)

def mergeMeters (left right : List String) : List String := sortedUnique (left ++ right)

theorem normalizeToken_ne_empty {text token : String} (h : normalizeToken text = some token) :
    token ≠ "" := by
  unfold normalizeToken at h
  dsimp only at h
  split at h
  · cases h
  · rename_i hempty
    cases h
    rintro htoken
    apply hempty
    have := congrArg String.toList htoken
    rw [String.toList_ofList] at this
    rw [this]
    rfl

theorem nonneg_of_nonnegativeDecimal {price : String} {number : D}
    (h : nonnegativeDecimal price = some number) : 0 ≤ value number := by
  obtain ⟨-, hnonneg⟩ := Option.filter_eq_some_iff.mp h
  exact of_decide_eq_true hnonneg

theorem pos_of_positiveDecimal {text : String} {number : D}
    (h : positiveDecimal text = some number) : 0 < value number := by
  obtain ⟨-, hpos⟩ := Option.filter_eq_some_iff.mp h
  exact of_decide_eq_true hpos

theorem pos_of_memoryGb {text : String} {memory : D} (h : memoryGb text = some memory) :
    0 < value memory := by
  obtain ⟨_, _, hmemory⟩ := Option.bind_eq_some_iff.mp h
  exact pos_of_positiveDecimal hmemory

theorem not_blank_of_required {text : Option String} {value : String}
    (h : required text = some value) : isBlank value = false := by
  obtain ⟨-, hblank⟩ := Option.filter_eq_some_iff.mp h
  simpa using hblank

theorem ne_empty_of_required {text : Option String} {value : String}
    (h : required text = some value) : value ≠ "" := by
  rintro rfl
  exact Bool.noConfusion (not_blank_of_required h)

end ProviderRows

end TcoCalculator
