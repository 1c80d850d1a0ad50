/-
The projection of an AWS offer file (src/rust/src/pricing/aws_rds.rs,
project_rds_offer, and the ChunkReader of src/rust/src/pricing/http.rs): the SQL
Server dimensions of a document that is read as it arrives.
-/
import TcoCalculator.Library.JsonDocument
import TcoCalculator.Library.Rfc3339
import TcoCalculator.Pricing.AwsRds

namespace TcoCalculator

inductive RdsProjectionError where
  | unsupportedOffer
  | malformedJson
  | invalidManifest
  deriving DecidableEq, Repr

namespace RdsProjection

open AwsRds JsonDocument

/-! ### Chunks -/

/-- What is left of the chunk at hand, and the chunks that the channel still gives. -/
structure ChunkReader where
  receiver : List (List UInt8)
  current : List UInt8

namespace ChunkReader

def new (receiver : List (List UInt8)) : ChunkReader := { receiver := receiver, current := [] }

/-- Up to `size` bytes of the first chunk that has any; none at the end. -/
def readFrom (size : Nat) (current : List UInt8) :
    List (List UInt8) → List UInt8 × ChunkReader
  | [] => (current.take size, { receiver := [], current := current.drop size })
  | chunk :: receiver =>
      if current.take size ≠ [] then
        (current.take size, { receiver := chunk :: receiver, current := current.drop size })
      else readFrom size chunk receiver

def read (reader : ChunkReader) (size : Nat) : List UInt8 × ChunkReader :=
  readFrom size reader.current reader.receiver

/-- The bytes that are still to be read. -/
def remaining (reader : ChunkReader) : List UInt8 :=
  reader.current ++ reader.receiver.flatten

theorem readFrom_remaining {size : Nat} (hsize : 0 < size) (current : List UInt8)
    (receiver : List (List UInt8)) :
    (readFrom size current receiver).1 ++ (readFrom size current receiver).2.remaining =
      current ++ receiver.flatten := by
  induction receiver generalizing current with
  | nil => simp [readFrom, remaining]
  | cons chunk receiver ih =>
      by_cases hempty : current.take size = []
      · have hcurrent : current = [] := by
          simpa [hsize.ne'] using hempty
        simpa [readFrom, hcurrent] using ih chunk
      · simp [readFrom, hempty, remaining, ← List.append_assoc]

theorem readFrom_eq_nil {size : Nat} (hsize : 0 < size) {current : List UInt8}
    {receiver : List (List UInt8)} (h : (readFrom size current receiver).1 = []) :
    current ++ receiver.flatten = [] := by
  induction receiver generalizing current with
  | nil => simpa [readFrom, hsize.ne'] using h
  | cons chunk receiver ih =>
      by_cases hempty : current.take size = []
      · have hcurrent : current = [] := by
          simpa [hsize.ne'] using hempty
        simp only [readFrom, hempty, ne_eq, not_true_eq_false, if_false] at h
        simpa [hcurrent] using ih h
      · simp only [readFrom, hempty, ne_eq, not_false_eq_true, if_true] at h

theorem length_readFrom_le (size : Nat) (current : List UInt8) (receiver : List (List UInt8)) :
    (readFrom size current receiver).1.length ≤ size := by
  induction receiver generalizing current with
  | nil => simp [readFrom]
  | cons chunk receiver ih =>
      by_cases hempty : current.take size = []
      · simpa [readFrom, hempty] using ih chunk
      · simp [readFrom, hempty]

/-- The JSON reader asks for one byte at a time. -/
def readByte (reader : ChunkReader) : Option (UInt8 × ChunkReader) :=
  match reader.read 1 with
  | ([], _) => none
  | (byte :: _, reader) => some (byte, reader)

theorem remaining_of_readByte {reader rest : ChunkReader} {byte : UInt8}
    (h : reader.readByte = some (byte, rest)) : reader.remaining = byte :: rest.remaining := by
  have hremaining := readFrom_remaining Nat.one_pos reader.current reader.receiver
  have hlength := length_readFrom_le 1 reader.current reader.receiver
  unfold readByte read at h
  generalize readFrom 1 reader.current reader.receiver = found at h hremaining hlength
  match found, h with
  | (first :: more, _), h =>
      cases h
      have hmore : more = [] := by simpa using hlength
      simpa [hmore, remaining] using hremaining.symm

theorem remaining_of_readByte_none {reader : ChunkReader} (h : reader.readByte = none) :
    reader.remaining = [] := by
  refine readFrom_eq_nil Nat.one_pos ?_
  unfold readByte read at h
  generalize readFrom 1 reader.current reader.receiver = found at h ⊢
  match found, h with
  | ([], _), _ => rfl

def bytes (reader : ChunkReader) : List UInt8 :=
  match _h : reader.readByte with
  | none => []
  | some (byte, rest) => byte :: bytes rest
termination_by reader.remaining.length
decreasing_by simp [remaining_of_readByte _h]

theorem bytes_eq_remaining (reader : ChunkReader) : reader.bytes = reader.remaining := by
  fun_induction bytes reader with
  | case1 reader hnone => exact (remaining_of_readByte_none hnone).symm
  | case2 reader byte rest hsome ih => rw [remaining_of_readByte hsome, ih]

/-- How the bytes are cut into chunks is not seen. -/
theorem bytes_new (chunks : List (List UInt8)) : (new chunks).bytes = chunks.flatten := by
  rw [bytes_eq_remaining]
  rfl

end ChunkReader

/-! ### Products -/

structure ProductAttributes where
  databaseEngine : Option String
  databaseEdition : Option String
  licenseModel : Option String
  licenseType : Option String
  deploymentModel : Option String
  deploymentOption : Option String
  operation : Option String
  instanceType : Option String
  memory : Option String
  vcpu : Option String
  volumeName : Option String
  volumeType : Option String

structure RawProduct where
  sku : String
  productFamily : Option String
  attributes : ProductAttributes

structure ProjectedProduct where
  sku : String
  productFamily : String
  attributes : ProductAttributes

def productAttributes (get : String → Option JsonDocument) : Option ProductAttributes := do
  let databaseEngine ← optional get "databaseEngine"
  let databaseEdition ← optional get "databaseEdition"
  let licenseModel ← optional get "licenseModel"
  let licenseType ← optional get "licenseType"
  let deploymentModel ← optional get "deploymentModel"
  let deploymentOption ← optional get "deploymentOption"
  let operation ← optional get "operation"
  let instanceType ← optional get "instanceType"
  let memory ← optional get "memory"
  let vcpu ← optional get "vcpu"
  let volumeName ← optional get "volumeName"
  let volumeType ← optional get "volumeType"
  return {
    databaseEngine := databaseEngine
    databaseEdition := databaseEdition
    licenseModel := licenseModel
    licenseType := licenseType
    deploymentModel := deploymentModel
    deploymentOption := deploymentOption
    operation := operation
    instanceType := instanceType
    memory := memory
    vcpu := vcpu
    volumeName := volumeName
    volumeType := volumeType }

def readProductAttributes (document : JsonDocument) : Option ProductAttributes :=
  (fields ["databaseEngine", "databaseEdition", "licenseModel", "licenseType", "deploymentModel",
    "deploymentOption", "operation", "instanceType", "memory", "vcpu", "volumeName",
    "volumeType"] 12 document).bind productAttributes

def rawProduct (get : String → Option JsonDocument) : Option RawProduct := do
  let sku ← required asString get "sku"
  let productFamily ← optional get "productFamily"
  let attributes ← required readProductAttributes get "attributes"
  return { sku := sku, productFamily := productFamily, attributes := attributes }

def readRawProduct (document : JsonDocument) : Option RawProduct :=
  (fields ["sku", "productFamily", "attributes"] 3 document).bind rawProduct

def customerProvidedMedia (attributes : ProductAttributes) : Bool :=
  attributes.licenseModel == some "Bring your own media" ||
    attributes.deploymentModel == some "Custom" &&
      (attributes.databaseEdition == some "Standard" &&
          attributes.operation == some "CreateDBInstance:0405" ||
        attributes.databaseEdition == some "Enterprise" &&
          attributes.operation == some "CreateDBInstance:0406")

def isSelectedProduct (offerCode : String) (product : RawProduct) : Bool :=
  if offerCode = "AmazonRDS" then
    product.attributes.databaseEngine == some "SQL Server" &&
      isSqlServerEdition product.attributes.databaseEdition &&
      (product.productFamily == some "Database Instance" &&
          customerProvidedMedia product.attributes ||
        product.productFamily == some "Database Storage")
  else if offerCode = "AmazonRDSOCPULicenseFees" then
    product.productFamily == some "Optimized License" &&
      product.attributes.licenseType == some "SQLServer" &&
      isSqlServerEdition product.attributes.databaseEdition
  else false

/-- A product under its SKU; no product: one that is not selected. -/
def projectedProduct (expectedOfferCode sku : String) (document : JsonDocument) :
    Option (Option ProjectedProduct) := do
  let product ← readRawProduct document
  if product.sku ≠ sku then none
  else if isSelectedProduct expectedOfferCode product then
    return product.productFamily.map fun productFamily => {
      sku := product.sku
      productFamily := productFamily
      attributes := product.attributes }
  else return none

/-- The selected products.  Of those of one SKU the last counts. -/
def readProducts (expectedOfferCode : String) (document : JsonDocument) :
    Option (List (String × ProjectedProduct)) := do
  let entries ← readEach (projectedProduct expectedOfferCode) (← document.asMembers)
  return btreeMap (kept entries)

/-! ### Terms -/

structure RawTermAttributes where
  leaseContractLength : Option String
  purchaseOption : Option String
  offeringClass : Option String

structure RawPriceDimension where
  rateCode : String
  unit : String
  pricePerUnit : List (String × String)

structure RawOfferTerm where
  offerTermCode : String
  sku : String
  priceDimensions : List (String × RawPriceDimension)
  termAttributes : RawTermAttributes

def RawTermAttributes.default : RawTermAttributes where
  leaseContractLength := none
  purchaseOption := none
  offeringClass := none

def termAttributes (get : String → Option JsonDocument) : Option RawTermAttributes := do
  let leaseContractLength ← optional get "LeaseContractLength"
  let purchaseOption ← optional get "PurchaseOption"
  let offeringClass ← optional get "OfferingClass"
  return {
    leaseContractLength := leaseContractLength
    purchaseOption := purchaseOption
    offeringClass := offeringClass }

def readTermAttributes (document : JsonDocument) : Option RawTermAttributes :=
  (fields ["LeaseContractLength", "PurchaseOption", "OfferingClass"] 3 document).bind
    termAttributes

variable (library : JsonLibrary)

def priceDimension (get : String → Option JsonDocument) : Option RawPriceDimension := do
  let rateCode ← required asString get "rateCode"
  let unit ← required asString get "unit"
  let pricePerUnit ← required (readMap (valueText library)) get "pricePerUnit"
  return { rateCode := rateCode, unit := unit, pricePerUnit := pricePerUnit }

def readPriceDimension (document : JsonDocument) : Option RawPriceDimension :=
  (fields ["rateCode", "unit", "pricePerUnit"] 3 document).bind (priceDimension library)

def offerTerm (get : String → Option JsonDocument) : Option RawOfferTerm := do
  let offerTermCode ← required asString get "offerTermCode"
  let sku ← required asString get "sku"
  let priceDimensions ← required (readMap (readPriceDimension library)) get "priceDimensions"
  let termAttributes ← withDefault readTermAttributes .default get "termAttributes"
  return {
    offerTermCode := offerTermCode
    sku := sku
    priceDimensions := priceDimensions
    termAttributes := termAttributes }

def readOfferTerm (document : JsonDocument) : Option RawOfferTerm :=
  (fields ["offerTermCode", "sku", "priceDimensions", "termAttributes"] 3 document).bind
    (offerTerm library)

def projectDimension (termType : String) (product : ProjectedProduct) (term : RawOfferTerm)
    (dimension : RawPriceDimension) (price : String) : RawDimension where
  sku := product.sku
  productFamily := product.productFamily
  databaseEngine := product.attributes.databaseEngine
  databaseEdition := product.attributes.databaseEdition
  licenseModel := product.attributes.licenseModel
  licenseType := product.attributes.licenseType
  deploymentModel := product.attributes.deploymentModel
  deploymentOption := product.attributes.deploymentOption
  instanceType := product.attributes.instanceType
  memory := product.attributes.memory
  vcpu := product.attributes.vcpu
  volumeName := product.attributes.volumeName
  volumeType := product.attributes.volumeType
  termType := termType
  offerTermCode := term.offerTermCode
  leaseContractLength := term.termAttributes.leaseContractLength
  purchaseOption := term.termAttributes.purchaseOption
  offeringClass := term.termAttributes.offeringClass
  rateCode := dimension.rateCode
  unit := dimension.unit
  price := price

/-- The dimensions of a term of a SKU, each with its price in USD. -/
def termDimensions (termType sku : String) (product : ProjectedProduct) (term : RawOfferTerm) :
    Option (List RawDimension) :=
  if term.sku ≠ sku then none
  else
    term.priceDimensions.mapM fun dimension => do
      let price ← dimension.2.pricePerUnit.lookup "USD"
      return projectDimension termType product term dimension.2 price

/-- The dimensions of one SKU; a SKU that is not selected is passed over. -/
def skuDimensions (products : List (String × ProjectedProduct)) (termType sku : String)
    (document : JsonDocument) : Option (List RawDimension) :=
  match products.lookup sku with
  | none => some []
  | some product => do
      let terms ← readMap (readOfferTerm library) document
      let dimensions ← terms.mapM fun term => termDimensions termType sku product term.2
      return dimensions.flatten

def readSkuTerms (products : List (String × ProjectedProduct)) (termType : String)
    (document : JsonDocument) : Option (List RawDimension) := do
  let dimensions ← readEach (skuDimensions library products termType) (← document.asMembers)
  return (dimensions.map Prod.snd).flatten

/-- A term type whose dimensions are projected. -/
def isProjectedTermType (termType : String) : Bool :=
  termType == "OnDemand" || termType == "Reserved"

def termTypeDimensions (products : List (String × ProjectedProduct)) (termType : String)
    (document : JsonDocument) : Option (List RawDimension) :=
  if isProjectedTermType termType then readSkuTerms library products termType document
  else some []

def readTerms (products : List (String × ProjectedProduct)) (document : JsonDocument) :
    Option (List RawDimension) := do
  let dimensions ← readEach (termTypeDimensions library products) (← document.asMembers)
  return (dimensions.map Prod.snd).flatten

/-! ### Offers -/

/-- What was read of an offer so far. -/
structure OfferFields where
  formatVersion : Option String
  offerCode : Option String
  sourceVersion : Option String
  publishedAt : Option String
  products : Option (List (String × ProjectedProduct))
  dimensions : Option (List RawDimension)

def OfferFields.empty : OfferFields where
  formatVersion := none
  offerCode := none
  sourceVersion := none
  publishedAt := none
  products := none
  dimensions := none

structure RawOfferProjection where
  formatVersion : String
  offerCode : String
  sourceVersion : String
  publishedAt : String
  dimensions : List RawDimension

/-- A field that is there already is refused. -/
def setOnce (slot : Option String) (document : JsonDocument) : Option (Option String) := do
  let value ← document.asString
  if slot.isSome then none else some (some value)

def visitMember (expectedOfferCode : String) (offer : OfferFields)
    (member : String × JsonDocument) : Option OfferFields :=
  match member.1 with
  | "formatVersion" => do
      let formatVersion ← setOnce offer.formatVersion member.2
      return { offer with formatVersion := formatVersion }
  | "offerCode" => do
      let offerCode ← setOnce offer.offerCode member.2
      return { offer with offerCode := offerCode }
  | "version" => do
      let sourceVersion ← setOnce offer.sourceVersion member.2
      return { offer with sourceVersion := sourceVersion }
  | "publicationDate" => do
      let publishedAt ← setOnce offer.publishedAt member.2
      return { offer with publishedAt := publishedAt }
  | "products" =>
      if offer.products.isSome then none
      else do
        let products ← readProducts expectedOfferCode member.2
        return { offer with products := some products }
  | "terms" =>
      if offer.dimensions.isSome then none
      else do
        -- The terms of products that are still to come cannot be read.
        let products ← offer.products
        let dimensions ← readTerms library products member.2
        return { offer with dimensions := some dimensions }
  | _ => some offer

def visitMembers (expectedOfferCode : String) : OfferFields → Members → Option OfferFields
  | offer, [] => some offer
  | offer, member :: rest => do
      let offer ← visitMember library expectedOfferCode offer member
      visitMembers expectedOfferCode offer rest

def readOffer (expectedOfferCode : String) (document : JsonDocument) :
    Option RawOfferProjection := do
  let offer ← visitMembers library expectedOfferCode .empty (← document.asMembers)
  return {
    formatVersion := ← offer.formatVersion
    offerCode := ← offer.offerCode
    sourceVersion := ← offer.sourceVersion
    publishedAt := ← offer.publishedAt
    dimensions := ← offer.dimensions }

structure ProjectedRdsOffer where
  sourceVersion : String
  effectiveAt : String
  body : SelectedLeaf

def projectRdsOffer (bytes : List UInt8) (expectedOfferCode : String) :
    Except RdsProjectionError ProjectedRdsOffer :=
  if expectedOfferCode ≠ "AmazonRDS" ∧ expectedOfferCode ≠ "AmazonRDSOCPULicenseFees" then
    .error .unsupportedOffer
  else
    match (library.parse bytes).bind (readOffer library expectedOfferCode) with
    | none => .error .malformedJson
    | some projection =>
        if projection.formatVersion ≠ "v1.0" ∨ projection.offerCode ≠ expectedOfferCode ∨
            projection.sourceVersion = "" ∨ (Rfc3339.parse projection.publishedAt).isNone then
          .error .invalidManifest
        else
          .ok {
            sourceVersion := projection.sourceVersion
            effectiveAt := projection.publishedAt
            body := {
              sourceOfferCode := projection.offerCode
              dimensions := projection.dimensions } }

/-- The projection of a document that arrives in chunks. -/
def projectChunks (chunks : List (List UInt8)) (expectedOfferCode : String) :
    Except RdsProjectionError ProjectedRdsOffer :=
  projectRdsOffer library (ChunkReader.new chunks).bytes expectedOfferCode

end RdsProjection

end TcoCalculator
