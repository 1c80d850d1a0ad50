/-
What an offer projection lists: every price dimension of the selected products, and
once each exactly when none stands in two members of the document.
-/
import TcoCalculator.Library.JsonOrder
import TcoCalculator.Library.ReadEach
import TcoCalculator.Pricing.RdsProjection

namespace TcoCalculator.RdsProjection

open AwsRds JsonDocument ReadEach

/-! ### Price dimensions of a document -/

/-- Where a price dimension stands in an offer document. -/
structure Place where
  termType : String
  sku : String
  term : String
  dimension : String
  deriving DecidableEq

/-- The terms of one SKU, as one member has them. -/
structure SkuTerms where
  termType : String
  sku : String
  value : JsonDocument

def membersOf (document : JsonDocument) : Members := document.asMembers.getD []

def termTypeSkus (termType : String) (document : JsonDocument) : List SkuTerms :=
  if isProjectedTermType termType then
    (membersOf document).map fun member =>
      { termType := termType, sku := member.1, value := member.2 }
  else []

def termsSkus (terms : JsonDocument) : List SkuTerms :=
  (membersOf terms).flatMap fun member => termTypeSkus member.1 member.2

/-- The members for SKUs under the OnDemand and Reserved terms. -/
def skuTerms (document : JsonDocument) : List SkuTerms :=
  (ofName "terms" (membersOf document)).flatMap fun member => termsSkus member.2

variable (library : JsonLibrary) (expectedOfferCode : String) (document : JsonDocument)

/-- A selected product of the document. -/
def HasProduct (product : ProjectedProduct) : Prop :=
  ∃ products value raw, ("products", products) ∈ membersOf document ∧
    (product.sku, value) ∈ membersOf products ∧ readRawProduct value = some raw ∧
    isSelectedProduct expectedOfferCode raw ∧ raw.sku = product.sku ∧
    raw.productFamily = some product.productFamily ∧ raw.attributes = product.attributes

/-- A price dimension of a selected product with all that it is projected from. -/
structure Listing where
  place : Place
  product : ProjectedProduct
  term : RawOfferTerm
  dimension : RawPriceDimension
  price : String

def Listing.row (listing : Listing) : RawDimension :=
  projectDimension listing.place.termType listing.product listing.term listing.dimension
    listing.price

/-- The terms of a SKU have the dimension of the listing. -/
structure SkuTerms.Has (terms : SkuTerms) (listing : Listing) : Prop where
  termType : listing.place.termType = terms.termType
  sku : listing.place.sku = terms.sku
  term : ∃ offerTerms, readMap (readOfferTerm library) terms.value = some offerTerms ∧
    (listing.place.term, listing.term) ∈ offerTerms
  dimension : (listing.place.dimension, listing.dimension) ∈ listing.term.priceDimensions
  price : listing.dimension.pricePerUnit.lookup "USD" = some listing.price

/-- The document has the dimension of the listing, a selected product's. -/
structure Stands (listing : Listing) : Prop where
  product : HasProduct expectedOfferCode document listing.product
  sku : listing.product.sku = listing.place.sku
  terms : ∃ terms ∈ skuTerms document, terms.Has library listing

/-- The dimensions are those of the document, each listed once. -/
def ListsOnce (dimensions : List RawDimension) : Prop :=
  ∃ listings : List Listing, dimensions.Perm (listings.map Listing.row) ∧
    (listings.map Listing.place).Nodup ∧
    (∀ listing ∈ listings, Stands library expectedOfferCode document listing) ∧
    ∀ listing, Stands library expectedOfferCode document listing →
      listing.place ∈ listings.map Listing.place

/-- The terms of a SKU have a price dimension at the place. -/
def SkuTerms.HasAt (terms : SkuTerms) (place : Place) : Prop :=
  ∃ listing : Listing, terms.Has library listing ∧ listing.place = place

/-- The SKU of a selected product. -/
def IsSelectedSku (sku : String) : Prop :=
  ∃ product, HasProduct expectedOfferCode document product ∧ product.sku = sku

/-- No dimension of a selected product stands in two members of the document: neither a
repeated term type nor a repeated SKU has a dimension that its twin has too. -/
def NoDimensionTwice : Prop :=
  (skuTerms document).Pairwise fun first second =>
    ∀ place, IsSelectedSku expectedOfferCode document place.sku →
      ¬ (first.HasAt library place ∧ second.HasAt library place)

/-! ### Reading an offer -/

variable {library expectedOfferCode document}

theorem visitMember_cases {offer offer' : OfferFields} {name : String} {value : JsonDocument}
    (h : visitMember library expectedOfferCode offer (name, value) = some offer') :
    (name ≠ "products" ∧ name ≠ "terms" ∧ offer'.products = offer.products ∧
        offer'.dimensions = offer.dimensions) ∨
      (name = "products" ∧ offer.products = none ∧
        ∃ products, readProducts expectedOfferCode value = some products ∧
          offer' = { offer with products := some products }) ∨
      name = "terms" ∧ offer.dimensions = none ∧
        ∃ products dimensions, offer.products = some products ∧
          readTerms library products value = some dimensions ∧
          offer' = { offer with dimensions := some dimensions } := by
  unfold visitMember at h
  split at h
  case h_1 hname | h_2 hname | h_3 hname | h_4 hname =>
    cases hname
    obtain ⟨slot, -, heq⟩ := Option.bind_eq_some_iff.mp h
    cases heq
    exact .inl ⟨by decide, by decide, rfl, rfl⟩
  case h_5 hname =>
    cases hname
    obtain ⟨habsent, h⟩ := Option.ite_none_left_eq_some.mp h
    obtain ⟨products, hproducts, heq⟩ := Option.bind_eq_some_iff.mp h
    exact .inr (.inl ⟨rfl, by simpa using habsent, products, hproducts,
      (Option.some.inj heq).symm⟩)
  case h_6 hname =>
    cases hname
    obtain ⟨habsent, h⟩ := Option.ite_none_left_eq_some.mp h
    obtain ⟨products, hproducts, h⟩ := Option.bind_eq_some_iff.mp h
    obtain ⟨dimensions, hdimensions, heq⟩ := Option.bind_eq_some_iff.mp h
    exact .inr (.inr ⟨rfl, by simpa using habsent, products, dimensions, hproducts,
      hdimensions, (Option.some.inj heq).symm⟩)
  case h_7 hproducts hterms =>
    cases h
    exact .inl ⟨fun heq => hproducts heq, fun heq => hterms heq, rfl, rfl⟩

/-- The products that were read are those of the one member of that name. -/
theorem visitMembers_products {members : Members} {offer final : OfferFields}
    (h : visitMembers library expectedOfferCode offer members = some final) :
    (final.products = offer.products ∧ ofName "products" members = []) ∨
      offer.products = none ∧ ∃ value products, ofName "products" members = [("products", value)] ∧
        readProducts expectedOfferCode value = some products ∧
        final.products = some products := by
  induction members generalizing offer with
  | nil =>
      cases h
      exact .inl ⟨rfl, rfl⟩
  | cons member rest ih =>
      obtain ⟨name, value⟩ := member
      obtain ⟨offer', hstep, hrest⟩ := Option.bind_eq_some_iff.mp h
      rcases visitMember_cases hstep with ⟨hname, -, heq, -⟩ |
        ⟨rfl, habsent, products, hproducts, rfl⟩ | ⟨rfl, -, products, dimensions, -, -, rfl⟩
      · simpa [ofName, hname, heq] using ih hrest
      · rcases ih hrest with ⟨hfinal, hnone⟩ | ⟨habsent', -⟩
        · exact .inr ⟨habsent, value, products, by simpa [ofName] using hnone, hproducts, hfinal⟩
        · cases habsent'
      · simpa [ofName] using ih hrest

/-- The dimensions are those of the one member of that name, read with the products. -/
theorem visitMembers_terms {members : Members} {offer final : OfferFields}
    (h : visitMembers library expectedOfferCode offer members = some final) :
    (final.dimensions = offer.dimensions ∧ ofName "terms" members = []) ∨
      offer.dimensions = none ∧ ∃ value products dimensions,
        ofName "terms" members = [("terms", value)] ∧ final.products = some products ∧
        readTerms library products value = some dimensions ∧
        final.dimensions = some dimensions := by
  induction members generalizing offer with
  | nil =>
      cases h
      exact .inl ⟨rfl, rfl⟩
  | cons member rest ih =>
      obtain ⟨name, value⟩ := member
      obtain ⟨offer', hstep, hrest⟩ := Option.bind_eq_some_iff.mp h
      rcases visitMember_cases hstep with ⟨-, hname, -, heq⟩ |
        ⟨rfl, -, products, -, rfl⟩ | ⟨rfl, habsent, products, dimensions, hproducts, hread, rfl⟩
      · simpa [ofName, hname, heq] using ih hrest
      · simpa [ofName] using ih hrest
      · rcases ih hrest with ⟨hfinal, hnone⟩ | ⟨habsent', -⟩
        · refine .inr ⟨habsent, value, products, dimensions, by simpa [ofName] using hnone, ?_,
            hread, hfinal⟩
          -- The products stay as they are once they are there.
          rcases visitMembers_products hrest with ⟨hsame, -⟩ | ⟨hmissing, -⟩
          · exact hsame.trans hproducts
          · cases hproducts.symm.trans hmissing
        · cases habsent'

/-- What an accepted document was read as. -/
structure Accepted (library : JsonLibrary) (expectedOfferCode : String)
    (document : JsonDocument) (dimensions : List RawDimension) where
  members : Members
  products : JsonDocument
  terms : JsonDocument
  selected : List (String × ProjectedProduct)
  asMembers : document.asMembers = some members
  ofProducts : ofName "products" members = [("products", products)]
  ofTerms : ofName "terms" members = [("terms", terms)]
  readProducts : readProducts expectedOfferCode products = some selected
  readTerms : readTerms library selected terms = some dimensions

theorem accepted_of_readOffer {projection : RawOfferProjection}
    (h : readOffer library expectedOfferCode document = some projection) :
    Nonempty (Accepted library expectedOfferCode document projection.dimensions) := by
  simp only [readOffer, Option.bind_eq_bind, Option.bind_eq_some_iff, Option.pure_def,
    Option.some.injEq] at h
  obtain ⟨members, hmembers, offer, hoffer, _, -, _, -, _, -, _, -, dimensions, hdimensions,
    rfl⟩ := h
  rcases visitMembers_terms hoffer with ⟨hnone, -⟩ |
    ⟨-, terms, selected, found, hterms, hselected, hread, hfound⟩
  · rw [hdimensions] at hnone
    cases hnone
  rcases visitMembers_products hoffer with ⟨hnone, -⟩ |
    ⟨-, products, selected', hproducts, hproductsRead, hselected'⟩
  · rw [hselected] at hnone
    cases hnone
  cases hselected.symm.trans hselected'
  cases hdimensions.symm.trans hfound
  exact ⟨{
    members := members
    products := products
    terms := terms
    selected := selected
    asMembers := hmembers
    ofProducts := hproducts
    ofTerms := hterms
    readProducts := hproductsRead
    readTerms := hread }⟩

/-! ### Listings -/

/-- The listings of a term: its dimensions that have a price in USD. -/
def termListings (terms : SkuTerms) (product : ProjectedProduct) (term : String × RawOfferTerm) :
    List Listing :=
  term.2.priceDimensions.filterMap fun dimension =>
    (dimension.2.pricePerUnit.lookup "USD").map fun price => {
      place := {
        termType := terms.termType
        sku := terms.sku
        term := term.1
        dimension := dimension.1 }
      product := product
      term := term.2
      dimension := dimension.2
      price := price }

def productListings (library : JsonLibrary) (terms : SkuTerms) (product : ProjectedProduct) :
    List Listing :=
  ((readMap (readOfferTerm library) terms.value).getD []).flatMap (termListings terms product)

def skuListings (library : JsonLibrary) (selected : List (String × ProjectedProduct))
    (terms : SkuTerms) : List Listing :=
  (selected.lookup terms.sku).elim [] (productListings library terms)

theorem termDimensions_eq {terms : SkuTerms} {product : ProjectedProduct}
    {term : String × RawOfferTerm} {dimensions : List RawDimension}
    (h : termDimensions terms.termType terms.sku product term.2 = some dimensions) :
    dimensions = (termListings terms product term).map Listing.row := by
  replace h := (Option.ite_none_left_eq_some.mp h).2
  unfold termListings
  generalize term.2.priceDimensions = entries at h ⊢
  induction entries generalizing dimensions with
  | nil =>
      cases h
      rfl
  | cons entry rest ih =>
      obtain ⟨dimension, hdimension, others, hothers, rfl⟩ := mapM_cons_eq_some.mp h
      obtain ⟨price, hprice, heq⟩ := Option.bind_eq_some_iff.mp hdimension
      cases heq
      rw [ih hothers]
      simp [hprice, Listing.row]

theorem skuDimensions_eq {selected : List (String × ProjectedProduct)} (terms : SkuTerms)
    {dimensions : List RawDimension}
    (h : skuDimensions library selected terms.termType terms.sku terms.value = some dimensions) :
    dimensions = (skuListings library selected terms).map Listing.row := by
  unfold skuDimensions at h
  unfold skuListings
  cases hlookup : selected.lookup terms.sku with
  | none => simpa [hlookup, eq_comm] using h
  | some product =>
      simp only [hlookup, Option.bind_eq_bind, Option.bind_eq_some_iff, Option.pure_def,
        Option.some.injEq] at h
      obtain ⟨offerTerms, hterms, found, hfound, rfl⟩ := h
      simp only [Option.elim_some, productListings, hterms, Option.getD_some]
      rw [List.map_flatMap]
      exact flatten_mapM (fun term found hterm => termDimensions_eq hterm) hfound

theorem flatten_readEach {α : Type} {read : String → JsonDocument → Option (List α)}
    {g : String → JsonDocument → List α}
    (hread : ∀ name value found, read name value = some found → found = g name value)
    {members : Members} {entries : List (String × List α)}
    (h : readEach read members = some entries) :
    (entries.map Prod.snd).flatten = members.flatMap fun member => g member.1 member.2 := by
  induction members generalizing entries with
  | nil =>
      cases h
      rfl
  | cons member rest ih =>
      obtain ⟨name, value⟩ := member
      obtain ⟨first, hfirst, others, hothers, rfl⟩ := readEach_cons_eq_some.mp h
      rw [List.map_cons, List.flatten_cons, List.flatMap_cons, hread name value first hfirst,
        ih hothers]

theorem termTypeDimensions_eq {selected : List (String × ProjectedProduct)} {termType : String}
    {value : JsonDocument} {dimensions : List RawDimension}
    (h : termTypeDimensions library selected termType value = some dimensions) :
    dimensions =
      ((termTypeSkus termType value).flatMap (skuListings library selected)).map Listing.row := by
  by_cases hprojected : isProjectedTermType termType = true
  · simp only [termTypeDimensions, hprojected, if_true, readSkuTerms, Option.bind_eq_bind,
      Option.bind_eq_some_iff, Option.pure_def, Option.some.injEq] at h
    obtain ⟨members, hmembers, entries, hentries, rfl⟩ := h
    simp only [termTypeSkus, hprojected, if_true, membersOf, hmembers, Option.getD_some,
      List.flatMap_map, List.map_flatMap]
    exact flatten_readEach (fun sku value found hfound =>
      skuDimensions_eq { termType := termType, sku := sku, value := value } hfound) hentries
  · simpa [termTypeDimensions, termTypeSkus, hprojected, eq_comm] using h

theorem readTerms_eq {selected : List (String × ProjectedProduct)} {terms : JsonDocument}
    {dimensions : List RawDimension} (h : readTerms library selected terms = some dimensions) :
    dimensions =
      ((termsSkus terms).flatMap (skuListings library selected)).map Listing.row := by
  simp only [readTerms, Option.bind_eq_bind, Option.bind_eq_some_iff, Option.pure_def,
    Option.some.injEq] at h
  obtain ⟨members, hmembers, entries, hentries, rfl⟩ := h
  simp only [termsSkus, membersOf, hmembers, Option.getD_some, List.flatMap_assoc,
    List.map_flatMap]
  refine (flatten_readEach (fun _ _ _ hfound => termTypeDimensions_eq hfound) hentries).trans ?_
  simp only [List.map_flatMap]

namespace Accepted

variable {dimensions : List RawDimension}

/-- The listings of the document, in the order in which they are listed. -/
def listings (accepted : Accepted library expectedOfferCode document dimensions) : List Listing :=
  (skuTerms document).flatMap (skuListings library accepted.selected)

theorem skuTerms_eq (accepted : Accepted library expectedOfferCode document dimensions) :
    skuTerms document = termsSkus accepted.terms := by
  simp [skuTerms, membersOf, accepted.asMembers, accepted.ofTerms]

theorem dimensions_eq (accepted : Accepted library expectedOfferCode document dimensions) :
    dimensions = accepted.listings.map Listing.row := by
  rw [listings, accepted.skuTerms_eq]
  exact readTerms_eq accepted.readTerms

end Accepted

/-! ### Selected products -/

theorem mem_ofName {α : Type} {name : String} {value : α} {entries : List (String × α)} :
    (name, value) ∈ ofName name entries ↔ (name, value) ∈ entries := by
  simp [ofName]

theorem mem_kept {α : Type} {name : String} {value : α} {entries : List (String × Option α)} :
    (name, value) ∈ kept entries ↔ (name, some value) ∈ entries := by
  simp [kept]

theorem projectedProduct_eq_some {sku : String} {value : JsonDocument}
    {product : ProjectedProduct} :
    projectedProduct expectedOfferCode sku value = some (some product) ↔
      ∃ raw, readRawProduct value = some raw ∧ raw.sku = sku ∧
        isSelectedProduct expectedOfferCode raw ∧ raw.sku = product.sku ∧
        raw.productFamily = some product.productFamily ∧ raw.attributes = product.attributes := by
  simp only [projectedProduct, Option.bind_eq_bind, Option.bind_eq_some_iff]
  refine exists_congr fun raw => and_congr_right fun _ => ?_
  by_cases hsku : raw.sku = sku
  · by_cases hselected : isSelectedProduct expectedOfferCode raw = true
    · obtain ⟨productSku, productFamily, attributes⟩ := product
      cases raw.productFamily <;> simp [hsku, hselected]
    · simp [hsku, hselected]
  · simp [hsku]

namespace Accepted

variable {dimensions : List RawDimension}

theorem mem_products (accepted : Accepted library expectedOfferCode document dimensions)
    {products : JsonDocument} :
    ("products", products) ∈ membersOf document ↔ products = accepted.products := by
  rw [← mem_ofName, membersOf, accepted.asMembers, Option.getD_some, accepted.ofProducts]
  simp

theorem hasProduct_of_lookup (accepted : Accepted library expectedOfferCode document dimensions)
    {sku : String} {product : ProjectedProduct}
    (h : accepted.selected.lookup sku = some product) :
    HasProduct expectedOfferCode document product ∧ product.sku = sku := by
  have hread := accepted.readProducts
  simp only [RdsProjection.readProducts, Option.bind_eq_bind, Option.bind_eq_some_iff,
    Option.pure_def, Option.some.injEq] at hread
  obtain ⟨members, hmembers, entries, hentries, hselected⟩ := hread
  rw [← hselected, lookup_eq_some_of_nodup (nodup_names_btreeMap _)] at h
  obtain ⟨value, hvalue, hproduct⟩ :=
    (mem_readEach hentries).mp (mem_kept.mp (mem_of_mem_btreeMap h))
  obtain ⟨raw, hraw, hsku, hselected, hrest⟩ := projectedProduct_eq_some.mp hproduct
  have hname : product.sku = sku := hrest.1.symm.trans hsku
  refine ⟨⟨accepted.products, value, raw, accepted.mem_products.mpr rfl, ?_, hraw, hselected,
    hrest⟩, hname⟩
  rw [membersOf, hmembers, hname]
  exact hvalue

theorem lookup_of_isSelectedSku
    (accepted : Accepted library expectedOfferCode document dimensions) {sku : String}
    (h : IsSelectedSku expectedOfferCode document sku) :
    ∃ product, accepted.selected.lookup sku = some product := by
  obtain ⟨product, ⟨products, value, raw, hproducts, hvalue, hraw, hselected, hrest⟩, rfl⟩ := h
  have hread := accepted.readProducts
  simp only [RdsProjection.readProducts, Option.bind_eq_bind, Option.bind_eq_some_iff,
    Option.pure_def, Option.some.injEq] at hread
  obtain ⟨members, hmembers, entries, hentries, hbtree⟩ := hread
  rw [accepted.mem_products.mp hproducts, membersOf, hmembers] at hvalue
  have hkept : (product.sku, product) ∈ kept entries :=
    mem_kept.mpr ((mem_readEach hentries).mpr ⟨value, hvalue,
      projectedProduct_eq_some.mpr ⟨raw, hraw, hrest.1, hselected, hrest⟩⟩)
  obtain ⟨found, hfound⟩ := exists_mem_btreeMap (List.mem_map.mpr ⟨_, hkept, rfl⟩)
  rw [hbtree] at hfound
  exact ⟨found, (lookup_eq_some_of_nodup (hbtree ▸ nodup_names_btreeMap _)).mpr hfound⟩

end Accepted

/-! ### Listings and the document -/

theorem mem_termListings {terms : SkuTerms} {product : ProjectedProduct}
    {term : String × RawOfferTerm} {listing : Listing} :
    listing ∈ termListings terms product term ↔
      listing.place.termType = terms.termType ∧ listing.place.sku = terms.sku ∧
        listing.place.term = term.1 ∧ listing.term = term.2 ∧ listing.product = product ∧
        (listing.place.dimension, listing.dimension) ∈ listing.term.priceDimensions ∧
        listing.dimension.pricePerUnit.lookup "USD" = some listing.price := by
  simp only [termListings, List.mem_filterMap, Option.map_eq_some_iff]
  constructor
  · rintro ⟨dimension, hdimension, price, hprice, rfl⟩
    exact ⟨rfl, rfl, rfl, rfl, rfl, hdimension, hprice⟩
  · obtain ⟨⟨termType, sku, termName, dimensionName⟩, found, offerTerm, dimension, price⟩ := listing
    rintro ⟨rfl, rfl, rfl, rfl, rfl, hdimension, hprice⟩
    exact ⟨_, hdimension, price, hprice, rfl⟩

theorem mem_skuListings {selected : List (String × ProjectedProduct)} {terms : SkuTerms}
    {listing : Listing} :
    listing ∈ skuListings library selected terms ↔
      terms.Has library listing ∧ selected.lookup terms.sku = some listing.product := by
  unfold skuListings
  cases hlookup : selected.lookup terms.sku with
  | none => simp
  | some product =>
      simp only [Option.elim_some, productListings, List.mem_flatMap, mem_termListings,
        Option.some.injEq]
      constructor
      · rintro ⟨term, hterm, htype, hsku, hname, hofferTerm, rfl, hdimension, hprice⟩
        cases hread : readMap (readOfferTerm library) terms.value with
        | none => simp [hread] at hterm
        | some offerTerms =>
            rw [hread] at hterm
            exact ⟨⟨htype, hsku, ⟨offerTerms, hread, by rw [hname, hofferTerm]; exact hterm⟩,
              hdimension, hprice⟩, rfl⟩
      · rintro ⟨⟨htype, hsku, ⟨offerTerms, hread, hterm⟩, hdimension, hprice⟩, rfl⟩
        exact ⟨_, by simpa [hread] using hterm, htype, hsku, rfl, rfl, rfl, hdimension, hprice⟩

namespace Accepted

variable {dimensions : List RawDimension}

theorem stands_of_mem (accepted : Accepted library expectedOfferCode document dimensions)
    {listing : Listing} (h : listing ∈ accepted.listings) :
    Stands library expectedOfferCode document listing := by
  obtain ⟨terms, hterms, hlisting⟩ := List.mem_flatMap.mp h
  obtain ⟨hhas, hlookup⟩ := mem_skuListings.mp hlisting
  obtain ⟨hproduct, hsku⟩ := accepted.hasProduct_of_lookup hlookup
  exact ⟨hproduct, hsku.trans hhas.sku.symm, terms, hterms, hhas⟩

theorem exists_mem_skuListings
    (accepted : Accepted library expectedOfferCode document dimensions) {terms : SkuTerms}
    {place : Place} (hselected : IsSelectedSku expectedOfferCode document place.sku)
    (hplace : terms.HasAt library place) :
    place ∈ (skuListings library accepted.selected terms).map Listing.place := by
  obtain ⟨listing, hhas, rfl⟩ := hplace
  obtain ⟨product, hlookup⟩ := accepted.lookup_of_isSelectedSku hselected
  rw [hhas.sku] at hlookup
  -- The same dimension with the product that counts.
  let counted := { listing with product := product }
  have hcounted : terms.Has library counted :=
    ⟨hhas.termType, hhas.sku, hhas.term, hhas.dimension, hhas.price⟩
  exact List.mem_map.mpr ⟨counted, mem_skuListings.mpr ⟨hcounted, hlookup⟩, rfl⟩

theorem mem_places (accepted : Accepted library expectedOfferCode document dimensions)
    {listing : Listing} (h : Stands library expectedOfferCode document listing) :
    listing.place ∈ accepted.listings.map Listing.place := by
  obtain ⟨terms, hterms, hhas⟩ := h.terms
  have hmem := accepted.exists_mem_skuListings ⟨_, h.product, h.sku⟩ ⟨listing, hhas, rfl⟩
  rw [listings, List.map_flatMap]
  exact List.mem_flatMap.mpr ⟨terms, hterms, hmem⟩

end Accepted

/-! ### Once each -/

theorem nodup_names_readMap {α : Type} {read : JsonDocument → Option α} {value : JsonDocument}
    {entries : List (String × α)} (h : readMap read value = some entries) :
    (entries.map Prod.fst).Nodup := by
  obtain ⟨members, -, h⟩ := Option.bind_eq_some_iff.mp h
  obtain ⟨found, -, heq⟩ := Option.bind_eq_some_iff.mp h
  cases heq
  exact nodup_names_btreeMap found

theorem exists_read_of_mem_readMap {α : Type} {read : JsonDocument → Option α}
    {value : JsonDocument} {entries : List (String × α)} (h : readMap read value = some entries)
    {entry : String × α} (hentry : entry ∈ entries) : ∃ member, read member = some entry.2 := by
  obtain ⟨members, -, h⟩ := Option.bind_eq_some_iff.mp h
  obtain ⟨found, hfound, heq⟩ := Option.bind_eq_some_iff.mp h
  cases heq
  obtain ⟨member, -, hread⟩ := (mem_readEach hfound).mp (mem_of_mem_btreeMap hentry)
  exact ⟨member, hread⟩

theorem nodup_names_priceDimensions {value : JsonDocument} {term : RawOfferTerm}
    (h : readOfferTerm library value = some term) :
    (term.priceDimensions.map Prod.fst).Nodup := by
  simp only [readOfferTerm, offerTerm, required, Option.bind_eq_bind, Option.bind_eq_some_iff,
    Option.pure_def, Option.some.injEq] at h
  obtain ⟨get, -, _, -, _, -, priceDimensions, ⟨value, -, hread⟩, _, -, rfl⟩ := h
  exact nodup_names_readMap hread

theorem nodup_places_termListings {terms : SkuTerms} {product : ProjectedProduct}
    {term : String × RawOfferTerm} (h : (term.2.priceDimensions.map Prod.fst).Nodup) :
    ((termListings terms product term).map Listing.place).Nodup := by
  refine List.Nodup.of_map Place.dimension (h.sublist ?_)
  unfold termListings
  generalize term.2.priceDimensions = entries
  induction entries with
  | nil => exact .slnil
  | cons entry rest ih =>
      cases hprice : entry.2.pricePerUnit.lookup "USD" with
      | none => simpa [hprice] using ih.cons entry.1
      | some price => simpa [hprice] using ih.cons_cons entry.1

theorem nodup_places_skuListings (selected : List (String × ProjectedProduct))
    (terms : SkuTerms) : ((skuListings library selected terms).map Listing.place).Nodup := by
  unfold skuListings
  cases selected.lookup terms.sku with
  | none => exact List.nodup_nil
  | some product =>
      cases hread : readMap (readOfferTerm library) terms.value with
      | none => simp [productListings, hread]
      | some offerTerms =>
          simp only [Option.elim_some, productListings, hread, Option.getD_some,
            List.map_flatMap]
          refine List.nodup_flatMap.mpr ⟨fun term hterm => ?_, ?_⟩
          · obtain ⟨value, hvalue⟩ := exists_read_of_mem_readMap hread hterm
            exact nodup_places_termListings (nodup_names_priceDimensions hvalue)
          · have hnames := List.pairwise_map.mp (nodup_names_readMap hread)
            refine hnames.imp fun {first second} hne place hfirst hsecond => ?_
            obtain ⟨listing, hlisting, rfl⟩ := List.mem_map.mp hfirst
            obtain ⟨listing', hlisting', heq⟩ := List.mem_map.mp hsecond
            have hterm := (mem_termListings.mp hlisting).2.2.1
            have hterm' := (mem_termListings.mp hlisting').2.2.1
            exact hne (hterm.symm.trans ((congrArg Place.term heq).symm.trans hterm'))

namespace Accepted

variable {dimensions : List RawDimension}

theorem mem_places_skuListings
    (accepted : Accepted library expectedOfferCode document dimensions) {terms : SkuTerms}
    {place : Place} :
    place ∈ (skuListings library accepted.selected terms).map Listing.place ↔
      IsSelectedSku expectedOfferCode document place.sku ∧ terms.HasAt library place := by
  refine ⟨fun h => ?_, fun h => accepted.exists_mem_skuListings h.1 h.2⟩
  obtain ⟨listing, hlisting, rfl⟩ := List.mem_map.mp h
  obtain ⟨hhas, hlookup⟩ := mem_skuListings.mp hlisting
  obtain ⟨hproduct, hsku⟩ := accepted.hasProduct_of_lookup hlookup
  exact ⟨⟨_, hproduct, hsku.trans hhas.sku.symm⟩, listing, hhas, rfl⟩

/-- Places are repeated only between members. -/
theorem nodup_places_iff (accepted : Accepted library expectedOfferCode document dimensions) :
    (accepted.listings.map Listing.place).Nodup ↔
      NoDimensionTwice library expectedOfferCode document := by
  have hdisjoint : ∀ first second : SkuTerms,
      List.Disjoint ((skuListings library accepted.selected first).map Listing.place)
          ((skuListings library accepted.selected second).map Listing.place) ↔
        ∀ place, IsSelectedSku expectedOfferCode document place.sku →
          ¬ (first.HasAt library place ∧ second.HasAt library place) := by
    intro first second
    simp only [List.Disjoint, accepted.mem_places_skuListings]
    grind
  rw [listings, List.map_flatMap, List.nodup_flatMap, NoDimensionTwice]
  refine ⟨fun h => h.2.imp fun {first second} hplaces => (hdisjoint first second).mp hplaces,
    fun h => ⟨fun terms _ => nodup_places_skuListings _ terms,
      h.imp fun {first second} hplaces => (hdisjoint first second).mpr hplaces⟩⟩

theorem listsOnce_iff (accepted : Accepted library expectedOfferCode document dimensions) :
    ListsOnce library expectedOfferCode document dimensions ↔
      NoDimensionTwice library expectedOfferCode document := by
  rw [← accepted.nodup_places_iff]
  constructor
  · rintro ⟨listings, hperm, hnodup, hstands, -⟩
    -- As many listings as are listed, and every place of theirs is listed.
    have hlength : (accepted.listings.map Listing.place).length =
        (listings.map Listing.place).length := by
      have hrows := hperm.length_eq
      rw [accepted.dimensions_eq] at hrows
      simpa using hrows
    have hsubset : listings.map Listing.place ⊆ accepted.listings.map Listing.place := by
      intro place hplace
      obtain ⟨listing, hlisting, rfl⟩ := List.mem_map.mp hplace
      exact accepted.mem_places (hstands listing hlisting)
    have hplaces := (List.subperm_of_subset hnodup hsubset).perm_of_length_le hlength.le
    exact hplaces.nodup_iff.mp hnodup
  · intro hnodup
    refine ⟨accepted.listings, ?_, hnodup, fun _ hlisting => accepted.stands_of_mem hlisting,
      fun _ hstands => accepted.mem_places hstands⟩
    rw [← accepted.dimensions_eq]

end Accepted

end TcoCalculator.RdsProjection
