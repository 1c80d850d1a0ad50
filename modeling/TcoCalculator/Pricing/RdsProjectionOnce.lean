/-
The projection of an offer as a whole: each dimension once, in whatever order and
chunks the document arrives, and none that the normalization passes over.
-/
import TcoCalculator.Pricing.RdsProjectionOrder

namespace TcoCalculator.RdsProjection

open AwsRds JsonDocument

variable {library : JsonLibrary} {expectedOfferCode : String} {document : JsonDocument}
  {bytes : List UInt8} {offer : ProjectedRdsOffer}

/-- What the projection of a document promises. -/
structure ProjectsOnce (library : JsonLibrary) (document : JsonDocument) (bytes : List UInt8)
    (expectedOfferCode : String) (offer : ProjectedRdsOffer) : Prop where
  offerCode : offer.body.sourceOfferCode = expectedOfferCode
  listed : ListsOnce library expectedOfferCode document offer.body.dimensions
  reordered : ∀ bytes' document' offer', library.parse bytes' = some document' →
    document'.sorted = document.sorted →
    projectRdsOffer library bytes' expectedOfferCode = .ok offer' →
    offer'.body.dimensions.Perm offer.body.dimensions
  chunked : ∀ chunks : List (List UInt8), chunks.flatten = bytes →
    projectChunks library chunks expectedOfferCode = .ok offer
  classified : expectedOfferCode = "AmazonRDS" → ∀ dimension ∈ offer.body.dimensions,
    isComputeDimension dimension ∨ isStorageDimension dimension

theorem accepted_of_project (hparse : library.parse bytes = some document)
    (h : projectRdsOffer library bytes expectedOfferCode = .ok offer) :
    offer.body.sourceOfferCode = expectedOfferCode ∧
      Nonempty (Accepted library expectedOfferCode document offer.body.dimensions) := by
  unfold projectRdsOffer at h
  rw [hparse, Option.bind_some] at h
  split at h
  · cases h
  cases hread : readOffer library expectedOfferCode document with
  | none => simp [hread] at h
  | some projection =>
      simp only [hread] at h
      split at h
      · cases h
      · rename_i hmanifest
        cases h
        push Not at hmanifest
        exact ⟨hmanifest.2.1, accepted_of_readOffer hread⟩

/-- What is selected of the RDS offer is what the normalization takes for compute or
storage, with less to go by. -/
theorem classified_of_hasProduct {product : ProjectedProduct}
    (h : HasProduct "AmazonRDS" document product) {listing : Listing}
    (hlisting : listing.product = product) :
    isComputeDimension listing.row ∨ isStorageDimension listing.row := by
  obtain ⟨_, _, raw, -, -, -, hselected, -, hfamily, hattributes⟩ := h
  subst hlisting
  simp only [isSelectedProduct, if_true, hfamily, hattributes, Bool.and_eq_true,
    Bool.or_eq_true, beq_iff_eq, Option.some.injEq] at hselected
  obtain ⟨⟨hengine, hedition⟩, ⟨hfamily, hmedia⟩ | hfamily⟩ := hselected
  · refine .inl ?_
    simp only [customerProvidedMedia, Bool.and_eq_true, Bool.or_eq_true, beq_iff_eq] at hmedia
    simp only [isComputeDimension, Listing.row, projectDimension, hfamily, hengine, hedition,
      Bool.and_eq_true, Bool.or_eq_true, beq_iff_eq, true_and]
    exact hmedia.symm.imp And.left id
  · refine .inr ?_
    simp [isStorageDimension, Listing.row, projectDimension, hfamily, hengine, hedition]

theorem projectChunks_eq {chunks : List (List UInt8)} (h : chunks.flatten = bytes) :
    projectChunks library chunks expectedOfferCode =
      projectRdsOffer library bytes expectedOfferCode := by
  rw [projectChunks, ChunkReader.bytes_new, h]

/-- An accepted document is projected as promised exactly when no dimension of a selected
product stands in two of its members. -/
theorem rds_projection_once_iff (hparse : library.parse bytes = some document)
    (h : projectRdsOffer library bytes expectedOfferCode = .ok offer) :
    ProjectsOnce library document bytes expectedOfferCode offer ↔
      NoDimensionTwice library expectedOfferCode document := by
  obtain ⟨hcode, ⟨accepted⟩⟩ := accepted_of_project hparse h
  rw [← accepted.listsOnce_iff]
  refine ⟨fun hprojects => hprojects.listed, fun hlisted => ⟨hcode, hlisted, ?_, ?_, ?_⟩⟩
  · intro bytes' document' offer' hparse' hsorted h'
    obtain ⟨-, ⟨accepted'⟩⟩ := accepted_of_project hparse' h'
    exact accepted.perm_of_sorted_eq accepted' hsorted
  · intro chunks hchunks
    rw [projectChunks_eq hchunks, h]
  · rintro rfl dimension hdimension
    rw [accepted.dimensions_eq] at hdimension
    obtain ⟨listing, hlisting, rfl⟩ := List.mem_map.mp hdimension
    exact classified_of_hasProduct (accepted.stands_of_mem hlisting).product rfl

/-! ### An offer with one SKU -/

/-- A library that knows the text of one document. -/
def libraryOf (document : JsonDocument) : JsonLibrary where
  parse bytes := if bytes = document.text.toUTF8.toList then some document else none
  printNumber := some

def sampleProduct : JsonDocument :=
  object [("sku", string "S"), ("productFamily", string "Database Instance"),
    ("attributes", object [("databaseEngine", string "SQL Server"),
      ("databaseEdition", string "Standard"), ("licenseModel", string "Bring your own media"),
      ("deploymentOption", string "Single-AZ"), ("instanceType", string "db.m6i.8xlarge"),
      ("memory", string "128 GiB"), ("vcpu", string "32")])]

def sampleOnDemand : JsonDocument :=
  object [("S", object [("S.T", object [("offerTermCode", string "T"), ("sku", string "S"),
    ("priceDimensions", object [("S.T.R", object [("rateCode", string "S.T.R"),
      ("unit", string "Hrs"), ("pricePerUnit", object [("USD", string "5.104")])])]),
    ("termAttributes", object [])])])]

def sampleOffer (terms : Members) : JsonDocument :=
  object [("formatVersion", string "v1.0"), ("offerCode", string "AmazonRDS"),
    ("version", string "1"), ("publicationDate", string "2026-08-06T02:29:30Z"),
    ("products", object [("S", sampleProduct)]), ("terms", object terms)]

def onceOffer : JsonDocument := sampleOffer [("OnDemand", sampleOnDemand)]

def repeatedOffer : JsonDocument :=
  sampleOffer [("OnDemand", sampleOnDemand), ("OnDemand", sampleOnDemand)]

def bytesOf (document : JsonDocument) : List UInt8 := document.text.toUTF8.toList

theorem parse_libraryOf (document : JsonDocument) :
    (libraryOf document).parse (bytesOf document) = some document := if_pos rfl

theorem exists_project_libraryOf (document : JsonDocument)
    (h : (readOffer (libraryOf document) "AmazonRDS" document).any (fun projection =>
      projection.formatVersion == "v1.0" && projection.offerCode == "AmazonRDS" &&
        projection.sourceVersion != "" && (Rfc3339.parse projection.publishedAt).isSome) = true) :
    ∃ offer, projectRdsOffer (libraryOf document) (bytesOf document) "AmazonRDS" = .ok offer := by
  cases hread : readOffer (libraryOf document) "AmazonRDS" document with
  | none => simp [hread] at h
  | some projection =>
      simp only [hread, Option.any_some, Bool.and_eq_true, beq_iff_eq, bne_iff_ne] at h
      obtain ⟨⟨⟨hformat, hcode⟩, hversion⟩, hdate⟩ := h
      have hdate' : ¬ (Rfc3339.parse projection.publishedAt).isNone = true := by
        simpa [Option.isSome_iff_ne_none] using hdate
      simp [projectRdsOffer, parse_libraryOf, hread, hformat, hcode, hversion, hdate']

/-- An offer that has every member once. -/
theorem rds_projection_once_single : ∃ offer,
    projectRdsOffer (libraryOf onceOffer) (bytesOf onceOffer) "AmazonRDS" = .ok offer ∧
      (ProjectsOnce (libraryOf onceOffer) onceOffer (bytesOf onceOffer) "AmazonRDS" offer ↔
        NoDimensionTwice (libraryOf onceOffer) "AmazonRDS" onceOffer) := by
  obtain ⟨offer, hoffer⟩ := exists_project_libraryOf onceOffer (by decide +kernel)
  exact ⟨offer, hoffer, rds_projection_once_iff (parse_libraryOf onceOffer) hoffer⟩

/-- An offer whose OnDemand terms are repeated: it is accepted and its price listed twice. -/
theorem rds_projection_repeated_term_type : ∃ offer,
    projectRdsOffer (libraryOf repeatedOffer) (bytesOf repeatedOffer) "AmazonRDS" = .ok offer ∧
      offer.body.dimensions.length = 2 ∧
      ¬ ProjectsOnce (libraryOf repeatedOffer) repeatedOffer (bytesOf repeatedOffer) "AmazonRDS"
        offer := by
  obtain ⟨offer, hoffer⟩ := exists_project_libraryOf repeatedOffer (by decide +kernel)
  obtain ⟨-, ⟨accepted⟩⟩ := accepted_of_project (parse_libraryOf repeatedOffer) hoffer
  let products : JsonDocument := object [("S", sampleProduct)]
  have hproducts : products = accepted.products :=
    accepted.mem_products.mp (by simp [products, membersOf, asMembers, repeatedOffer, sampleOffer])
  have hselected : accepted.selected = (readProducts "AmazonRDS" products).getD [] := by
    rw [hproducts, accepted.readProducts, Option.getD_some]
  refine ⟨offer, hoffer, ?_, fun hprojects => ?_⟩
  · rw [accepted.dimensions_eq, List.length_map, Accepted.listings, hselected]
    decide +kernel
  · have hnodup :=
      accepted.nodup_places_iff.mpr (accepted.listsOnce_iff.mp hprojects.listed)
    rw [Accepted.listings, hselected] at hnodup
    exact absurd hnodup (by decide +kernel)

end TcoCalculator.RdsProjection
