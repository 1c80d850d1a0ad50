/-
Prices of retail meters and the order in which their items come: which items
the rates of a meter rest on, and when no order of them leaves other rates.
-/
import Mathlib.Algebra.Order.Ring.Rat
import Mathlib.Data.List.Sort
import Mathlib.Data.Rat.Defs
import Mathlib.Data.String.Basic
import TcoCalculator.Library.ReadEach
import TcoCalculator.Library.Slots

namespace TcoCalculator.RetailOrder

/-- What an item asks for a meter, and since when. -/
@[ext] structure MeterPrice where
  price : ℚ
  unit : String
  start : String
  deriving DecidableEq

/-- Pages of items, each from a document of its own. -/
class RetailPages (P : Type) (I : outParam Type) where
  page : String → Option (List I) → P
  sourceUrl : P → String
  items : P → Option (List I)
  sourceUrl_page : ∀ url body, sourceUrl (page url body) = url
  items_page : ∀ url body, items (page url body) = body

open ReadEach RetailPages

attribute [simp] sourceUrl_page items_page

variable {P I : Type} [RetailPages P I]

/-- The same documents with the same items, in any order: those that were read,
and those that were not. -/
structure Reordered (pages pages' : List P) : Prop where
  documents : (pages.map fun page => (sourceUrl page, (items page).isSome)).Perm
    (pages'.map fun page => (sourceUrl page, (items page).isSome))
  items : (pages.flatMap fun page => (RetailPages.items page).getD []).Perm
    (pages'.flatMap fun page => (RetailPages.items page).getD [])

/-- All items of the pages. -/
def itemsOf (pages : List P) : List I := pages.flatMap fun page => (items page).getD []

/-- The items of a page from a known document. -/
def pageItems (page : P) : Option (List I) :=
  if sourceUrl page = "" then none else items page

def retailItems (pages : List P) : Option (List I) := (pages.mapM pageItems).map List.flatten

theorem retailItems_eq_some {pages : List P} {found : List I} :
    retailItems pages = some found ↔
      (∀ page ∈ pages, sourceUrl page ≠ "" ∧ (items page).isSome) ∧ found = itemsOf pages := by
  have hpage : ∀ page : P, (pageItems page).isSome ↔ sourceUrl page ≠ "" ∧ (items page).isSome := by
    intro page
    rw [pageItems]
    split_ifs with hurl <;> simp [hurl]
  have hitems : ∀ lists, pages.mapM pageItems = some lists → lists.flatten = itemsOf pages := by
    intro lists hread
    rw [flatten_of_mapM hread, itemsOf]
    refine List.flatMap_congr fun page hmem => ?_
    rw [pageItems, if_neg ((hpage page).mp (isSome_of_mapM hread hmem)).1]
  constructor
  · intro h
    obtain ⟨lists, hread, rfl⟩ := Option.map_eq_some_iff.mp h
    exact ⟨fun page hmem => (hpage page).mp (isSome_of_mapM hread hmem), hitems lists hread⟩
  · rintro ⟨hpages, rfl⟩
    obtain ⟨lists, hread⟩ := mapM_isSome fun page hmem => (hpage page).mpr (hpages page hmem)
    rw [retailItems, hread, Option.map_some, hitems lists hread]

theorem Reordered.refl (pages : List P) : Reordered pages pages := ⟨.refl _, .refl _⟩

theorem Reordered.retailItems {pages pages' : List P} (h : Reordered pages pages')
    {found : List I} (hfound : RetailOrder.retailItems pages = some found) :
    RetailOrder.retailItems pages' = some (itemsOf pages') := by
  obtain ⟨hpages, -⟩ := retailItems_eq_some.mp hfound
  refine retailItems_eq_some.mpr ⟨fun page hmem => ?_, rfl⟩
  have hdocument := h.documents.mem_iff.mpr
    (List.mem_map_of_mem (f := fun page => (sourceUrl page, (RetailPages.items page).isSome)) hmem)
  obtain ⟨page', hmem', heq⟩ := List.mem_map.mp hdocument
  obtain ⟨hurl, hread⟩ := Prod.ext_iff.mp heq
  dsimp only at hurl hread
  rw [← hurl, ← hread]
  exact hpages page' hmem'

/-- Lists that look the same are sorted alike by what is seen of their elements. -/
theorem map_insertionSort_eq {α β : Type} {view : α → β} (key : β → String) {xs ys : List α}
    (h : xs.map view = ys.map view) :
    (xs.insertionSort fun left right => key (view left) ≤ key (view right)).map view =
      (ys.insertionSort fun left right => key (view left) ≤ key (view right)).map view := by
  have hsort := List.map_insertionSort (fun left right => key (view left) ≤ key (view right))
    (fun left right => key left ≤ key right) view
  rw [hsort xs fun _ _ _ _ => Iff.rfl, hsort ys fun _ _ _ _ => Iff.rfl, h]

/-! ### Rates of the meters -/

section Rates

variable {κ : Type} [DecidableEq κ] {cheapest : κ → Bool} {read : I → Option (List (κ × MeterPrice))}

/-- The lower price, whatever its date. -/
def cheaper (slot : Option MeterPrice) (price : MeterPrice) : Option MeterPrice :=
  some ⟨slot.elim price.price fun held => min held.price price.price, "", ""⟩

/-- A meter takes its cheapest price, or the latest and then all of one date agree. -/
def mergePrice (cheapest : κ → Bool) (key : κ) (slot : Option MeterPrice) (price : MeterPrice) :
    Option (Option MeterPrice) :=
  if cheapest key then some (cheaper slot price) else Latest.merge MeterPrice.start slot price

/-- The prices of the items. -/
def priced (read : I → Option (List (κ × MeterPrice))) (found : List I) :
    List (κ × MeterPrice) :=
  found.flatMap fun item => (read item).getD []

def meterRates (cheapest : κ → Bool) (read : I → Option (List (κ × MeterPrice)))
    (pages : List P) : Option (κ → Option MeterPrice) :=
  (retailItems pages).bind fun found => (found.mapM read).bind fun prices =>
    prices.flatten.foldlM (Slots.mergeAt (mergePrice cheapest)) fun _ => none

/-- No two prices of one meter and one date differ, but where the cheapest counts. -/
def Undisputed (cheapest : κ → Bool) (read : I → Option (List (κ × MeterPrice)))
    (pages : List P) : Prop :=
  ∀ left ∈ priced read (itemsOf pages), ∀ right ∈ priced read (itemsOf pages),
    left.1 = right.1 → cheapest left.1 = false → left.2.start = right.2.start → left.2 = right.2

theorem meterRates_eq_some {pages : List P} {rates : κ → Option MeterPrice} :
    meterRates cheapest read pages = some rates ↔
      retailItems pages = some (itemsOf pages) ∧ (∀ item ∈ itemsOf pages, (read item).isSome) ∧
        (priced read (itemsOf pages)).foldlM (Slots.mergeAt (mergePrice cheapest))
          (fun _ => none) = some rates := by
  constructor
  · intro h
    obtain ⟨found, hfound, h⟩ := Option.bind_eq_some_iff.mp h
    obtain ⟨prices, hprices, hfold⟩ := Option.bind_eq_some_iff.mp h
    obtain rfl := (retailItems_eq_some.mp hfound).2
    rw [flatten_of_mapM hprices] at hfold
    exact ⟨hfound, fun item hitem => isSome_of_mapM hprices hitem, hfold⟩
  · rintro ⟨hfound, hread, h⟩
    obtain ⟨prices, hprices⟩ := mapM_isSome hread
    rw [meterRates, hfound, Option.bind_some, hprices, Option.bind_some, flatten_of_mapM hprices]
    exact h

/-- A loop over pages and their items leaves the rates of the meters when each
item does what its prices do. -/
theorem foldlM_pages {ε σ : Type} {addItem : P → σ → I → Except ε σ}
    {addPage : σ → P → Except ε σ} {view : σ → κ → Option MeterPrice} {start : σ}
    (hitem : ∀ page state item, (addItem page state item).toOption.map view =
      (read item).bind fun prices =>
        prices.foldlM (Slots.mergeAt (mergePrice cheapest)) (view state))
    (hpage : ∀ state page, (addPage state page).toOption =
      (pageItems page).bind fun found => (found.foldlM (addItem page) state).toOption)
    (hstart : view start = fun _ => none) (pages : List P) :
    (pages.foldlM addPage start).toOption.map view = meterRates cheapest read pages := by
  have hpages : (pages.foldlM addPage start).toOption.map view =
      pages.foldlM (fun prices page => (pageItems page).bind fun found =>
        found.foldlM (fun prices item => (read item).bind fun entries =>
          entries.foldlM (Slots.mergeAt (mergePrice cheapest)) prices) prices) fun _ => none := by
    rw [← hstart]
    refine Fallible.foldlM_view (fun state page => ?_) pages start
    rw [hpage]
    cases pageItems page with
    | none => rfl
    | some found => exact Fallible.foldlM_view (hitem page) found state
  rw [hpages, Fallible.foldlM_read, meterRates, retailItems, Option.bind_map]
  congr 1
  funext lists
  exact Fallible.foldlM_read lists.flatten _

theorem foldlM_cheaper (prices : List MeterPrice) (slot : Option MeterPrice) :
    prices.foldlM (fun slot price => some (cheaper slot price)) slot =
      some (prices.foldl cheaper slot) := by
  induction prices generalizing slot with
  | nil => rfl
  | cons price rest ih => exact ih (cheaper slot price)

theorem cheaper_comm (slot : Option MeterPrice) (left right : MeterPrice) :
    cheaper (cheaper slot left) right = cheaper (cheaper slot right) left := by
  cases slot with
  | none => simp [cheaper, min_comm]
  | some held => simp [cheaper, min_right_comm]

/-- Without a dispute the rates do not depend on the order of the items. -/
theorem meterRates_reordered {pages pages' : List P} (h : Reordered pages pages')
    (hundisputed : Undisputed cheapest read pages) {rates : κ → Option MeterPrice}
    (hrates : meterRates cheapest read pages = some rates) :
    meterRates cheapest read pages' = some rates := by
  obtain ⟨hfound, hread, hfold⟩ := meterRates_eq_some.mp hrates
  have hpriced : (priced read (itemsOf pages)).Perm (priced read (itemsOf pages')) :=
    h.items.flatMap_right _
  refine meterRates_eq_some.mpr ⟨h.retailItems hfound,
    fun item hitem => hread item (h.items.mem_iff.mpr hitem), Slots.foldlM_mergeAt.mpr fun key => ?_⟩
  have hslot := Slots.foldlM_mergeAt.mp hfold key
  have hperm := Slots.entriesOf_perm hpriced key
  by_cases hcheapest : cheapest key
  · have hmerge : mergePrice cheapest key = fun slot price => some (cheaper slot price) := by
      funext slot price
      rw [mergePrice, if_pos hcheapest]
    rw [hmerge, foldlM_cheaper] at hslot ⊢
    rw [← hslot]
    exact congrArg some
      (hperm.symm.foldl_eq' (fun left _ right _ slot => cheaper_comm slot left right) none)
  · have hmerge : mergePrice cheapest key = Latest.merge MeterPrice.start := by
      funext slot price
      rw [mergePrice, if_neg hcheapest]
    rw [hmerge] at hslot ⊢
    have hprices : Latest.Undisputed MeterPrice.start
        (Slots.entriesOf (priced read (itemsOf pages')) key) := by
      intro left hleft right hright hdate
      have hleft := Slots.mem_entriesOf.mp (hperm.mem_iff.mpr hleft)
      have hright := Slots.mem_entriesOf.mp (hperm.mem_iff.mpr hright)
      exact hundisputed (key, left) hleft (key, right) hright rfl
        (Bool.eq_false_iff.mpr hcheapest) hdate
    obtain ⟨slot, hslot'⟩ := Latest.foldlM_of_undisputed hprices
    rw [hslot']
    exact congrArg some ((Latest.holds_of_foldlM hslot').unique (Latest.holds_of_foldlM hslot)
      fun price => hperm.symm.mem_iff)

/-! ### Disputes -/

/-- The pages with other items: all on the first page. -/
def gathered (found : List I) : List P → List P
  | [] => []
  | first :: rest =>
      page (sourceUrl first) (some found) ::
        rest.map fun other => page (sourceUrl other) ((items other).map fun _ => [])

theorem itemsOf_gathered {pages : List P} (h : pages ≠ []) (found : List I) :
    itemsOf (gathered found pages) = found := by
  cases pages with
  | nil => exact absurd rfl h
  | cons first rest =>
      have hrest : ∀ other : P, ((items other).map fun _ => ([] : List I)).getD [] = [] := by
        intro other
        cases items other <;> rfl
      simp [gathered, itemsOf, hrest]

theorem reordered_gathered {pages : List P} {found : List I}
    (hread : ∀ page ∈ pages, (items page).isSome) (hfound : (itemsOf pages).Perm found)
    (hne : pages ≠ []) : Reordered pages (gathered found pages) := by
  refine ⟨.of_eq ?_, ?_⟩
  · cases pages with
    | nil => rfl
    | cons first rest =>
        simp [gathered, hread first List.mem_cons_self]
  · have hitems := itemsOf_gathered hne found
    rw [itemsOf] at hitems
    rwa [hitems]

/-- Items can be brought to the front. -/
theorem perm_front {found : List I} {left right : I} (hleft : left ∈ found)
    (hright : right ∈ found) : ∃ front rest, found.Perm (front ++ rest) ∧ left ∈ front ∧
      right ∈ front ∧ ∀ item ∈ front, item = left ∨ item = right := by
  obtain ⟨before, after, rfl⟩ := List.append_of_mem hleft
  by_cases heq : right = left
  · refine ⟨[left], before ++ after, List.perm_middle, List.mem_singleton_self left, ?_, ?_⟩
    · exact List.mem_singleton.mpr heq
    · exact fun item hitem => .inl (List.mem_singleton.mp hitem)
  · have hright : right ∈ before ++ after := by
      simpa [heq] using hright
    obtain ⟨before', after', hsplit⟩ := List.append_of_mem hright
    refine ⟨[left, right], before' ++ after', ?_, by simp, by simp, by simp⟩
    calc before ++ left :: after
        |>.Perm (left :: (before ++ after)) := List.perm_middle
      _ |>.Perm (left :: (before' ++ right :: after')) := by rw [hsplit]
      _ |>.Perm (left :: right :: (before' ++ after')) := List.perm_middle.cons left

/-- Prices in dispute end the normalization when their items come first. -/
theorem undisputed_of_reordered {pages : List P} {start : I → String}
    (hstart : ∀ item, ∀ entry ∈ (read item).getD [],
      cheapest entry.1 = false → entry.2.start = start item)
    (h : ∀ pages', Reordered pages pages' → ∃ rates, meterRates cheapest read pages' = some rates) :
    Undisputed cheapest read pages := by
  intro left hleft right hright hkey hcheapest hdate
  by_contra hne
  obtain ⟨leftItem, hleftItem, hleft⟩ := List.mem_flatMap.mp hleft
  obtain ⟨rightItem, hrightItem, hright⟩ := List.mem_flatMap.mp hright
  obtain ⟨front, rest, hperm, hleftFront, hrightFront, hfront⟩ :=
    perm_front hleftItem hrightItem
  obtain ⟨_, haccepted⟩ := h pages (.refl pages)
  obtain ⟨hpages, -⟩ := retailItems_eq_some.mp (meterRates_eq_some.mp haccepted).1
  have hpresent : pages ≠ [] := by
    rintro rfl
    exact absurd hleftItem List.not_mem_nil
  obtain ⟨rates, hrates⟩ := h (gathered (front ++ rest) pages)
    (reordered_gathered (fun page hmem => (hpages page hmem).2) hperm hpresent)
  obtain ⟨-, -, hfold⟩ := meterRates_eq_some.mp hrates
  rw [itemsOf_gathered hpresent, priced, List.flatMap_append, List.foldlM_append] at hfold
  obtain ⟨begun, hbegun, -⟩ := Option.bind_eq_some_iff.mp hfold
  have hslot := Slots.foldlM_mergeAt.mp hbegun left.1
  have hmerge : mergePrice cheapest left.1 = Latest.merge MeterPrice.start := by
    funext slot price
    rw [mergePrice, hcheapest]
    rfl
  -- all prices of the front have the date of the two
  have hstarts : ∀ entry ∈ front.flatMap fun item => (read item).getD [], entry.1 = left.1 →
      entry.2.start = left.2.start := by
    intro entry hentry hsame
    obtain ⟨item, hitem, hentry⟩ := List.mem_flatMap.mp hentry
    rw [hstart item entry hentry (hsame ▸ hcheapest)]
    rcases hfront item hitem with rfl | rfl
    · exact (hstart item left hleft hcheapest).symm
    · rw [hdate]
      exact (hstart item right hright (hkey ▸ hcheapest)).symm
  have hleftMem : (left.1, left.2) ∈ front.flatMap fun item => (read item).getD [] :=
    List.mem_flatMap.mpr ⟨leftItem, hleftFront, hleft⟩
  have hrightMem : (left.1, right.2) ∈ front.flatMap fun item => (read item).getD [] :=
    List.mem_flatMap.mpr ⟨rightItem, hrightFront, hkey ▸ hright⟩
  have hnone := Latest.foldlM_eq_none (Slots.mem_entriesOf.mpr hleftMem)
    (Slots.mem_entriesOf.mpr hrightMem) hne hdate fun price hprice =>
      (hstarts (left.1, price) (Slots.mem_entriesOf.mp hprice) rfl).le
  rw [hmerge, hnone] at hslot
  cases hslot

end Rates

end TcoCalculator.RetailOrder
