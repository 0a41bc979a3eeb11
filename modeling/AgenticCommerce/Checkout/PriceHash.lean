/-
# The hash of a price

`services/checkout/hash.py`: the nine factors of a price, the canonical dictionary of a snapshot of
them, and `compute_price_hash`, which takes a snapshot or a dictionary, keeps the factors, sorts
the keys, writes them as JSON and hashes the text.

`Digests` holds what is taken for granted: SHA-256 tells texts apart, and `isoformat` tells points
in time apart.
-/

import AgenticCommerce.Schema
import AgenticCommerce.Text.JsonText

namespace AgenticCommerce
namespace PriceHash

/-- The functions that a price is hashed with. -/
structure Digests where
  /-- `hashlib.sha256(text.encode("utf-8")).hexdigest()`. -/
  sha256 : List Char → String
  /-- `value.isoformat()`. -/
  isoformat : Time → String
  sha256_injective : Function.Injective sha256
  isoformat_injective : Function.Injective isoformat

/-- `expires_at: str | datetime`. -/
inductive Deadline where
  | text (s : String)
  | time (t : Time)
  deriving DecidableEq

/-- `PriceSnapshot`. -/
structure Snapshot where
  offerId : String
  offerVersion : ℤ
  unitPriceMinor : ℤ
  quantity : ℤ
  shippingMinor : ℤ
  taxMinor : ℤ
  discountMinor : ℤ
  currency : String
  expiresAt : Deadline
  deriving DecidableEq

/-- The snapshot of a price in a row of a checkout, whose deadline is a point in time. -/
def ofRow (s : PriceSnapshot) : Snapshot where
  offerId := s.offerId
  offerVersion := s.offerVersion
  unitPriceMinor := s.unitPriceMinor
  quantity := s.quantity
  shippingMinor := s.shippingMinor
  taxMinor := s.taxMinor
  discountMinor := s.discountMinor
  currency := s.currency
  expiresAt := .time s.expiresAt

/-- `PRICE_FACTORS`. -/
def priceFactors : List String :=
  ["offer_id", "offer_version", "unit_price_minor", "quantity", "shipping_minor", "tax_minor",
   "discount_minor", "currency", "expires_at"]

/-- A value of a dictionary: of JSON, or a point in time. -/
inductive Item where
  | json (v : Json)
  | time (t : Time)

variable (digests : Digests)

/-- A deadline as text. -/
def Deadline.render : Deadline → String
  | text s => s
  | time t => digests.isoformat t

/-- `to_canonical_dict`. -/
def Snapshot.toCanonicalDict (s : Snapshot) : List (String × Json) :=
  [("offer_id", .str s.offerId), ("offer_version", .int s.offerVersion),
   ("unit_price_minor", .int s.unitPriceMinor), ("quantity", .int s.quantity),
   ("shipping_minor", .int s.shippingMinor), ("tax_minor", .int s.taxMinor),
   ("discount_minor", .int s.discountMinor), ("currency", .str s.currency),
   ("expires_at", .str (s.expiresAt.render digests))]

/-- The hash of the factors that are kept. -/
def hashOf (data : List (String × Json)) : String :=
  digests.sha256 (Json.dumps (.obj (Json.sortFields data)))

/-- `compute_price_hash`, of a snapshot. -/
def computeOfSnapshot (s : Snapshot) : String := hashOf digests (s.toCanonicalDict digests)

/-- The value that `json.dumps` is given for a factor; it raises on a point in time elsewhere than
in `expires_at`. -/
def written (key : String) : Item → Option Json
  | .json v => some v
  | .time t => if key = "expires_at" then some (.str (digests.isoformat t)) else none

/-- `compute_price_hash`, of a dictionary; `none` where it raises. -/
def computeOfDict (d : List (String × Item)) : Option String :=
  ((priceFactors.filterMap fun key => (d.lookup key).map fun item => (key, item)).mapM
    fun kv => (written digests kv.1 kv.2).map fun v => (kv.1, v)).map (hashOf digests)

/-- A dictionary that has the factors of a snapshot, in any order and among other keys. -/
def Carries (d : List (String × Item)) (s : Snapshot) : Prop :=
  ∀ kv ∈ s.toCanonicalDict digests, d.lookup kv.1 = some (.json kv.2)

/-- The canonical dictionary holds the factors in their order. -/
theorem keys_toCanonicalDict (s : Snapshot) :
    (s.toCanonicalDict digests).map Prod.fst = priceFactors := rfl

/-- Looking up the keys of a list in a dictionary that has its bindings gives the list. -/
theorem filterMap_lookup {d : List (String × Item)} : ∀ {l : List (String × Json)},
    (∀ kv ∈ l, d.lookup kv.1 = some (.json kv.2)) →
      ((l.map Prod.fst).filterMap fun key => (d.lookup key).map fun item => (key, item)) =
        l.map fun kv => (kv.1, Item.json kv.2)
  | [], _ => rfl
  | kv :: l, h => by
      have hkv := h kv (List.mem_cons_self ..)
      have ih := filterMap_lookup fun kv' hkv' => h kv' (List.mem_cons_of_mem _ hkv')
      rw [List.map_cons, List.filterMap_cons, hkv, Option.map_some, ih, List.map_cons]

/-- Values of JSON are written as they are. -/
theorem mapM_written : ∀ l : List (String × Json),
    ((l.map fun kv => (kv.1, Item.json kv.2)).mapM
      fun kv => (written digests kv.1 kv.2).map fun v => (kv.1, v)) = some l
  | [] => rfl
  | kv :: l => by
      rw [List.map_cons, List.mapM_cons, mapM_written l]
      rfl

/-- **The order of the keys and other keys do not matter.** -/
theorem computeOfDict_eq {d : List (String × Item)} {s : Snapshot} (h : Carries digests d s) :
    computeOfDict digests d = some (computeOfSnapshot digests s) := by
  rw [computeOfDict, ← keys_toCanonicalDict digests s, filterMap_lookup h, mapM_written]
  rfl

/-! ### What a hash tells apart -/

/-- The canonical dictionary with its keys sorted. -/
theorem sortFields_toCanonicalDict (s : Snapshot) :
    Json.sortFields (s.toCanonicalDict digests) =
      [("currency", .str s.currency), ("discount_minor", .int s.discountMinor),
       ("expires_at", .str (s.expiresAt.render digests)), ("offer_id", .str s.offerId),
       ("offer_version", .int s.offerVersion), ("quantity", .int s.quantity),
       ("shipping_minor", .int s.shippingMinor), ("tax_minor", .int s.taxMinor),
       ("unit_price_minor", .int s.unitPriceMinor)] := by
  simp [Snapshot.toCanonicalDict, Json.sortFields, Json.sortedFields, Json.sorted, Json.insertField,
    Json.precedes]

/-- Texts of values without floats are read back, so they tell the values apart. -/
theorem dumps_injective {v v' : Json} (h : v.exact = true) (h' : v'.exact = true)
    (heq : Json.dumps v = Json.dumps v') : v = v' := by
  have hread := Json.loads_dumps ⟨id, true⟩ h
  rw [heq, Json.loads_dumps _ h'] at hread
  exact (Option.some.inj hread).symm

/-- Two deadlines that are written alike: they are the same, or one is the text of the other. -/
def Deadline.Alike (x y : Deadline) : Prop :=
  x = y ∨ ∃ t, (x = .time t ∧ y = .text (digests.isoformat t)) ∨
    (x = .text (digests.isoformat t) ∧ y = .time t)

theorem Deadline.alike_of_render {x y : Deadline} (h : x.render digests = y.render digests) :
    x.Alike digests y := by
  cases x with
  | text s =>
      cases y with
      | text s' => exact .inl (congrArg Deadline.text h)
      | time t => exact .inr ⟨t, .inr ⟨congrArg Deadline.text h, rfl⟩⟩
  | time t =>
      cases y with
      | text s => exact .inr ⟨t, .inl ⟨rfl, congrArg Deadline.text h.symm⟩⟩
      | time t' => exact .inl (congrArg Deadline.time (digests.isoformat_injective h))

/-- **Equal hashes have equal factors**, as far as a deadline can be told from its text. -/
theorem factors_of_hash {s s' : Snapshot}
    (h : computeOfSnapshot digests s = computeOfSnapshot digests s') :
    s = { s' with expiresAt := s.expiresAt } ∧ s.expiresAt.Alike digests s'.expiresAt := by
  have hexact : ∀ s : Snapshot,
      (Json.obj (Json.sortFields (s.toCanonicalDict digests))).exact = true := by
    intro s
    rw [sortFields_toCanonicalDict]
    rfl
  have hsorted := dumps_injective (hexact s) (hexact s') (digests.sha256_injective h)
  rw [sortFields_toCanonicalDict, sortFields_toCanonicalDict] at hsorted
  simp only [Json.obj.injEq, List.cons.injEq, Prod.mk.injEq, Json.str.injEq, Json.int.injEq,
    true_and, and_true] at hsorted
  obtain ⟨hcurrency, hdiscount, hexpires, hoffer, hversion, hquantity, hshipping, htax, hprice⟩ :=
    hsorted
  refine ⟨?_, Deadline.alike_of_render digests hexpires⟩
  cases s
  cases s'
  simp only at hcurrency hdiscount hoffer hversion hquantity hshipping htax hprice
  subst hcurrency hdiscount hoffer hversion hquantity hshipping htax hprice
  rfl

end PriceHash
end AgenticCommerce
