import OrgBilling.Uuid

/-!
# Products of the catalog

A product that organizations can subscribe to, as the application keeps it. Once it has been pushed
to the payment provider it carries the provider's id. A `ProductChanges` is a partial update: it
names the fields that are to change, and for the fields that may be empty it can also ask to empty
them.
-/

namespace OrgBilling

/-- A product of the local catalog. -/
structure CatalogProduct where
  /-- The row's id. -/
  id : Uuid
  /-- The provider's id, once the product has been pushed there. -/
  productId : Option String
  /-- The name shown to customers. -/
  name : String
  /-- The description shown to customers. -/
  description : String
  /-- The product is on offer. -/
  isActive : Bool
  /-- The tax category. -/
  taxCode : Option String
  deriving DecidableEq

/-- A partial update of a product. An absent field stays as it is. -/
structure ProductChanges where
  /-- A new provider id, or none at all. -/
  productId : Option (Option String) := none
  /-- A new name. -/
  name : Option String := none
  /-- A new description. -/
  description : Option String := none
  /-- Whether the product is on offer. -/
  isActive : Option Bool := none
  /-- A new tax category, or none at all. -/
  taxCode : Option (Option String) := none

namespace ProductChanges

/-- The product after the update. -/
def apply (c : ProductChanges) (p : CatalogProduct) : CatalogProduct where
  id := p.id
  productId := c.productId.getD p.productId
  name := c.name.getD p.name
  description := c.description.getD p.description
  isActive := c.isActive.getD p.isActive
  taxCode := c.taxCode.getD p.taxCode

/-- Read an update from JSON. A field that is missing or `null` stays as it is, so an update that
empties a field cannot be written in JSON. -/
def decode : Decoder ProductChanges :=
  Decoder.record ["product_id", "product_name", "description", "is_active", "tax_code"] fun m => do
    some
      { productId := (← m.nullable "product_id" Decoder.text).map some
        name := ← m.nullable "product_name" Decoder.text
        description := ← m.nullable "description" Decoder.text
        isActive := ← m.nullable "is_active" Decoder.bool
        taxCode := (← m.nullable "tax_code" Decoder.text).map some }

/-- An update that says nothing changes nothing. -/
@[simp] theorem apply_empty (p : CatalogProduct) : apply {} p = p := rfl

/-- No update changes which row it is. -/
@[simp] theorem apply_id (c : ProductChanges) (p : CatalogProduct) : (c.apply p).id = p.id := rfl

end ProductChanges

namespace CatalogProduct

/-- A product as a JSON object. -/
def toJson (p : CatalogProduct) : Json :=
  .object
    [("id", p.id.toJson),
     ("product_id", .ofOption p.productId),
     ("product_name", .string p.name),
     ("description", .string p.description),
     ("is_active", .bool p.isActive),
     ("tax_code", .ofOption p.taxCode)]

/-- Read a product from JSON. -/
def decode : Decoder CatalogProduct :=
  Decoder.record ["id", "product_id", "product_name", "description", "is_active", "tax_code"]
    fun m => do
      some
        { id := ← m.required "id" Uuid.decode
          productId := ← m.nullable "product_id" Decoder.text
          name := ← m.required "product_name" Decoder.text
          description := ← m.required "description" Decoder.text
          isActive := ← m.required "is_active" Decoder.bool
          taxCode := ← m.nullable "tax_code" Decoder.text }

end CatalogProduct

end OrgBilling
