/-
The order of members in an offer document: the projection lists the same dimensions
in whatever order they stand, the products before the terms.
-/
import TcoCalculator.Library.JsonOrder
import TcoCalculator.Pricing.RdsListings

namespace TcoCalculator.RdsProjection

open AwsRds JsonDocument

variable {library : JsonLibrary} {expectedOfferCode : String} {document : JsonDocument}

theorem steady_readProductAttributes : Steady readProductAttributes := by
  refine Steady.fields ?_
  iterate 12 refine SteadyFields.bind (.optional _) fun _ => ?_
  exact .pure _

theorem steady_readRawProduct : Steady readRawProduct := by
  refine Steady.fields ?_
  refine SteadyFields.bind (.required .asString _) fun _ => ?_
  refine SteadyFields.bind (.optional _) fun _ => ?_
  refine SteadyFields.bind (.required steady_readProductAttributes _) fun _ => ?_
  exact .pure _

theorem steady_projectedProduct (sku : String) :
    Steady (projectedProduct expectedOfferCode sku) := by
  intro value product h
  obtain ⟨raw, hraw, hproduct⟩ := Option.bind_eq_some_iff.mp h
  exact Option.bind_eq_some_iff.mpr ⟨raw, steady_readRawProduct value raw hraw, hproduct⟩

theorem steady_readProducts : Steady (readProducts expectedOfferCode) := by
  intro value selected h
  obtain ⟨members, hmembers, h⟩ := Option.bind_eq_some_iff.mp h
  obtain ⟨entries, hentries, heq⟩ := Option.bind_eq_some_iff.mp h
  obtain ⟨entries', hentries', -, hnames⟩ :=
    readEach_sortedMembers (readEach_mapSorted_eq steady_projectedProduct hentries)
  cases heq
  have hkept : ∀ name, ofName name (kept entries') = ofName name (kept entries) := fun name => by
    rw [ofName_kept, ofName_kept, hnames]
  simp [readProducts, asMembers_sorted hmembers, hentries', btreeMap_congr hkept]

theorem steady_readTermAttributes : Steady readTermAttributes := by
  refine Steady.fields ?_
  iterate 3 refine SteadyFields.bind (.optional _) fun _ => ?_
  exact .pure _

theorem steady_readPriceDimension : Steady (readPriceDimension library) := by
  refine Steady.fields ?_
  refine SteadyFields.bind (.required .asString _) fun _ => ?_
  refine SteadyFields.bind (.required .asString _) fun _ => ?_
  refine SteadyFields.bind (.required (.readMap (.valueText library)) _) fun _ => ?_
  exact .pure _

theorem steady_readOfferTerm : Steady (readOfferTerm library) := by
  refine Steady.fields ?_
  refine SteadyFields.bind (.required .asString _) fun _ => ?_
  refine SteadyFields.bind (.required .asString _) fun _ => ?_
  refine SteadyFields.bind (.required (.readMap steady_readPriceDimension) _) fun _ => ?_
  refine SteadyFields.bind (.withDefault steady_readTermAttributes _ _) fun _ => ?_
  exact .pure _

/-! ### Terms -/

variable {selected : List (String × ProjectedProduct)}

theorem steady_skuDimensions (termType sku : String) :
    Steady (skuDimensions library selected termType sku) := by
  intro value dimensions h
  unfold skuDimensions at h ⊢
  cases hlookup : selected.lookup sku with
  | none => simpa [hlookup] using h
  | some product =>
      simp only [hlookup] at h ⊢
      obtain ⟨terms, hterms, hdimensions⟩ := Option.bind_eq_some_iff.mp h
      exact Option.bind_eq_some_iff.mpr
        ⟨terms, Steady.readMap steady_readOfferTerm value terms hterms, hdimensions⟩

theorem termTypeDimensions_sorted {termType : String} {value : JsonDocument}
    {dimensions : List RawDimension}
    (h : termTypeDimensions library selected termType value = some dimensions) :
    ∃ dimensions', termTypeDimensions library selected termType value.sorted = some dimensions' ∧
      dimensions'.Perm dimensions := by
  by_cases hprojected : isProjectedTermType termType = true
  · simp only [termTypeDimensions, hprojected, if_true] at h ⊢
    obtain ⟨members, hmembers, h⟩ := Option.bind_eq_some_iff.mp h
    obtain ⟨entries, hentries, heq⟩ := Option.bind_eq_some_iff.mp h
    obtain ⟨entries', hentries', hperm, -⟩ :=
      readEach_sortedMembers (readEach_mapSorted_eq (steady_skuDimensions termType) hentries)
    cases heq
    exact ⟨_, by simp [readSkuTerms, asMembers_sorted hmembers, hentries'],
      (hperm.map Prod.snd).flatten⟩
  · exact ⟨dimensions, by simpa [termTypeDimensions, hprojected] using h, .refl _⟩

theorem readTerms_sorted {terms : JsonDocument} {dimensions : List RawDimension}
    (h : readTerms library selected terms = some dimensions) :
    ∃ dimensions', readTerms library selected terms.sorted = some dimensions' ∧
      dimensions'.Perm dimensions := by
  obtain ⟨members, hmembers, h⟩ := Option.bind_eq_some_iff.mp h
  obtain ⟨entries, hentries, heq⟩ := Option.bind_eq_some_iff.mp h
  obtain ⟨mapped, hmapped, hrelated⟩ :=
    readEach_mapSorted (fun _ _ _ hread => termTypeDimensions_sorted hread) hentries
  obtain ⟨entries', hentries', hperm, -⟩ := readEach_sortedMembers hmapped
  cases heq
  refine ⟨_, by simp [readTerms, asMembers_sorted hmembers, hentries'],
    (hperm.map Prod.snd).flatten.trans (List.Perm.flatten_congr ?_)⟩
  exact List.forall₂_map_left_iff.mpr (List.forall₂_map_right_iff.mpr
    (hrelated.imp fun _ _ hentry => hentry.2))

/-! ### Documents -/

namespace Accepted

variable {dimensions : List RawDimension}

/-- The products and the terms of the sorted document, whichever comes first there. -/
theorem sorted (accepted : Accepted library expectedOfferCode document dimensions) :
    ofName "products" (membersOf document.sorted) = [("products", accepted.products.sorted)] ∧
      ofName "terms" (membersOf document.sorted) = [("terms", accepted.terms.sorted)] := by
  simp [membersOf, asMembers_sorted accepted.asMembers, ofName_sortedMembers,
    accepted.ofProducts, accepted.ofTerms, mapSorted]

/-- Documents that differ in the order of their members list the same dimensions. -/
theorem perm_of_sorted_eq {document' : JsonDocument} {dimensions' : List RawDimension}
    (accepted : Accepted library expectedOfferCode document dimensions)
    (accepted' : Accepted library expectedOfferCode document' dimensions')
    (h : document'.sorted = document.sorted) : dimensions'.Perm dimensions := by
  have hproducts : accepted'.products.sorted = accepted.products.sorted := by
    have hsame := accepted'.sorted.1
    rw [h, accepted.sorted.1] at hsame
    simpa using hsame.symm
  have hterms : accepted'.terms.sorted = accepted.terms.sorted := by
    have hsame := accepted'.sorted.2
    rw [h, accepted.sorted.2] at hsame
    simpa using hsame.symm
  have hselected : accepted'.selected = accepted.selected := by
    have hread := steady_readProducts _ _ accepted'.readProducts
    rw [hproducts, steady_readProducts _ _ accepted.readProducts] at hread
    exact (Option.some.inj hread).symm
  obtain ⟨listed, hlisted, hperm⟩ := readTerms_sorted accepted.readTerms
  obtain ⟨listed', hlisted', hperm'⟩ := readTerms_sorted accepted'.readTerms
  rw [hterms, hselected, hlisted] at hlisted'
  cases hlisted'
  exact hperm'.symm.trans hperm

end Accepted

end TcoCalculator.RdsProjection
