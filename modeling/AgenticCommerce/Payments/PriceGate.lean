/-
# The price gate of a payment

`create_payment` hashes the snapshot of a checkout again, with the live offer's price, version and
currency in it, and compares the hash with the one that the checkout was stored with.  The snapshot
in the row is a dictionary of JSON whose keys have lost their order and which holds the product,
too.

A checkout is stored with the hash of its own snapshot and keeps both (`hashed_of_run`), so the
comparison of the hashes is the comparison of the three factors (`refusePriceChange_iff`).
-/

import AgenticCommerce.Checkout.PriceHash
import AgenticCommerce.Lifecycle.Transits

namespace AgenticCommerce
namespace PriceHash

open Relational Work

variable (digests : Digests)

/-- The environment hashes prices by `compute_price_hash`. -/
def HashesPrices (env : Env) : Prop :=
  ∀ s : PriceSnapshot, env.priceHash s = computeOfSnapshot digests (ofRow s)

/-- A step of the system in which prices are hashed by `compute_price_hash`. -/
def PricedStep (w w' : World) : Prop :=
  ∃ env op, HashesPrices digests env ∧ w' = Operation.run env w op

/-- Every checkout is stored with the hash of its snapshot. -/
def Hashed (db : Database) : Prop :=
  ∀ c ∈ db.checkouts, c.priceHash = computeOfSnapshot digests (ofRow c.priceSnapshot)

/-- A step that keeps it so. -/
def KeepsHashed (db db' : Database) : Prop := Hashed digests db → Hashed digests db'

variable {digests}

theorem KeepsHashed.of_eq {db db' : Database} (h : db'.checkouts = db.checkouts) :
    KeepsHashed digests db db' := by
  intro hdb c hc
  rw [h] at hc
  exact hdb c hc

instance : IsPreorder Database (KeepsHashed digests) where
  refl _ := id
  trans _ _ _ h h' hdb := h' (h hdb)

instance : BooksFrame (KeepsHashed digests) :=
  ⟨fun _ _ _ _ _ _ => .of_eq rfl, fun _ _ _ => .of_eq rfl⟩
instance : RecordsFrame (KeepsHashed digests) := ⟨fun _ _ => .of_eq rfl⟩
instance : CallbackFrame (KeepsHashed digests) := ⟨fun _ _ _ => .of_eq rfl⟩
instance : AttemptFrame (KeepsHashed digests) :=
  ⟨fun _ _ _ _ _ => .of_eq rfl, fun _ _ _ _ _ => .of_eq rfl⟩
instance : AuthorizationFrame (KeepsHashed digests) :=
  ⟨fun _ _ _ _ _ => .of_eq rfl, fun _ _ _ _ => .of_eq rfl, fun _ _ _ _ _ => .of_eq rfl⟩

/-- A transition changes a checkout's status and neither its snapshot nor its hash. -/
instance : TransitFrame (fun _ _ => True) (KeepsHashed digests) where
  transit db db' aggregate event context rule _ _ _ hset := by
    cases aggregate with
    | payment p =>
        obtain ⟨s, -, rfl⟩ := Option.map_eq_some_iff.1 hset
        exact .of_eq rfl
    | checkout c =>
        obtain ⟨s, -, rfl⟩ := Option.map_eq_some_iff.1 hset
        intro hdb c' hc'
        have hc'' : c' ∈ (db.setCheckoutStatus c.checkoutId s).checkouts := hc'
        rw [Database.setCheckoutStatus, Table.mem_modify] at hc''
        obtain ⟨d, hd, rfl⟩ := hc''
        split_ifs <;> exact hdb d hd

/-- **Every operation stores the hash of a snapshot beside it, and keeps both.** -/
theorem Operation.keepsHashed {env : Env} (henv : HashesPrices digests env) {w : World}
    (op : Operation) : KeepsHashed digests w.db (op.run env w).db := by
  refine op.transits_of_opening (fun _ _ => True) ?_ (fun _ _ _ _ _ _ _ _ => .of_eq rfl)
    (fun _ _ _ _ _ => .of_eq rfl) (fun _ _ _ _ _ _ => trivial)
    (fun _ _ _ _ _ _ _ _ _ _ => trivial) fun _ _ _ _ => trivial
  intro b m o q ttl _ db offer expiresAt t ht hdb c hc
  rcases (Table.mem_insert ht).1 hc with hc | rfl
  · exact hdb c hc
  · exact henv _

/-- **In every state that is reached the hash of a checkout is that of its snapshot.** -/
theorem hashed_of_run {w₀ w : World} (h₀ : Unsold w₀.db)
    (hrun : Relation.ReflTransGen (PricedStep digests) w₀ w) : Hashed digests w.db := by
  refine invariant_of_steps (I := fun w : World => Hashed digests w.db) (fun u v hu huv => ?_) ?_
    hrun
  · obtain ⟨env, op, henv, rfl⟩ := huv
    exact Operation.keepsHashed henv op hu
  · intro c hc
    have hrows : c ∈ w₀.db.checkouts.rows := hc
    rw [h₀.1] at hrows
    cases hrows

/-! ### The stored dictionary -/

/-- `d[key] = value`. -/
def setItem (key : String) (value : Json) : List (String × Json) → List (String × Json)
  | [] => [(key, value)]
  | kv :: d => if kv.1 = key then (key, value) :: d else kv :: setItem key value d

theorem lookup_setItem (key key' : String) (value : Json) : ∀ d : List (String × Json),
    (setItem key value d).lookup key' = if key' = key then some value else d.lookup key'
  | [] => by
      rcases eq_or_ne key' key with rfl | h
      · simp [setItem]
      · simp [setItem, List.lookup_cons, beq_false_of_ne h, h]
  | (k, v) :: d => by
      have ih := lookup_setItem key key' value d
      rcases eq_or_ne k key with rfl | hk
      · rcases eq_or_ne key' k with rfl | h
        · simp [setItem]
        · simp [setItem, List.lookup_cons, beq_false_of_ne h, h]
      · rcases eq_or_ne key' k with rfl | h
        · simp [setItem, hk]
        · simp [setItem, List.lookup_cons, hk, beq_false_of_ne h, ih]

/-- The dictionary that `create_payment` hashes: the stored one, with the offer's price, version
and currency. -/
def currentDict (stored : List (String × Json)) (offer : Offer) : List (String × Json) :=
  setItem "currency" (.str offer.currency) (setItem "offer_version" (.int offer.offerVersion)
    (setItem "unit_price_minor" (.int offer.unitPriceMinor) stored))

/-- The hash that `create_payment` compares with the stored one. -/
def gateHash (digests : Digests) (stored : List (String × Json)) (offer : Offer) :
    Option String :=
  computeOfDict digests ((currentDict stored offer).map fun kv => (kv.1, .json kv.2))

/-- A dictionary in a row that has the factors of its checkout's snapshot. -/
def Stored (digests : Digests) (stored : List (String × Json)) (s : PriceSnapshot) : Prop :=
  ∀ kv ∈ (ofRow s).toCanonicalDict digests, stored.lookup kv.1 = some kv.2

/-- Values of JSON are looked up as items. -/
theorem lookup_items (key : String) : ∀ d : List (String × Json),
    (d.map fun kv => (kv.1, Item.json kv.2)).lookup key = (d.lookup key).map .json
  | [] => rfl
  | (k, v) :: d => by
      rw [List.map_cons, List.lookup_cons, List.lookup_cons, lookup_items key d]
      cases key == k <;> rfl

/-- **The gate hashes the snapshot with the offer's price, version and currency**, however the row
keeps its dictionary. -/
theorem gateHash_eq {env : Env} (henv : HashesPrices digests env) {c : Checkout} {offer : Offer}
    {stored : List (String × Json)} (h : Stored digests stored c.priceSnapshot) :
    gateHash digests stored offer = some (Payment.currentPriceHash env c offer) := by
  rw [gateHash, Payment.currentPriceHash, henv]
  refine computeOfDict_eq digests fun kv hkv => ?_
  rw [lookup_items, currentDict, lookup_setItem, lookup_setItem, lookup_setItem]
  simp only [Stored, Snapshot.toCanonicalDict, ofRow, List.forall_mem_cons] at h
  simp only [Snapshot.toCanonicalDict, ofRow, List.mem_cons, List.not_mem_nil, or_false] at hkv
  rcases hkv with rfl | rfl | rfl | rfl | rfl | rfl | rfl | rfl | rfl <;> simp [h, Deadline.render]

/-- **The gate lets a checkout through exactly when the offer's price, version and currency are
the frozen ones.** -/
theorem refusePriceChange_iff {env : Env} (henv : HashesPrices digests env) {c : Checkout}
    (hc : c.priceHash = computeOfSnapshot digests (ofRow c.priceSnapshot)) (offer : Offer)
    (merchantId : String) (w : World) :
    (∃ u w', Payment.refusePriceChange env c offer merchantId w = .ok u w') ↔
      offer.unitPriceMinor = c.priceSnapshot.unitPriceMinor ∧
        offer.offerVersion = c.priceSnapshot.offerVersion ∧
          offer.currency = c.priceSnapshot.currency := by
  have hpassed : (∃ u w', Payment.refusePriceChange env c offer merchantId w = .ok u w') ↔
      Payment.currentPriceHash env c offer = c.priceHash := by
    constructor
    · rintro ⟨u, w', h⟩
      exact (refusePriceChange_ok h).2
    · intro h
      exact ⟨(), w, by rw [Payment.refusePriceChange, if_neg (not_not.2 h)]; rfl⟩
  rw [hpassed, Payment.currentPriceHash, henv, hc]
  constructor
  · intro h
    have hfactors := (factors_of_hash digests h).1
    simp only [ofRow, Snapshot.mk.injEq] at hfactors
    exact ⟨hfactors.2.2.1, hfactors.2.1, hfactors.2.2.2.2.2.2.2.1⟩
  · rintro ⟨hprice, hversion, hcurrency⟩
    rw [hprice, hversion, hcurrency]

variable (digests) in
/-- **What a price hash stands for.**  The hash of a snapshot is that of every dictionary with its
factors; equal hashes have equal factors, up to a deadline that is the text of a point in time in
one of them; and in every state that is reached, the gate of a payment, which hashes whatever
dictionary the row keeps, lets a checkout through exactly when the live offer's price, version and
currency are the frozen ones. -/
theorem price_hash_sound :
    (∀ (s : Snapshot) (d : List (String × Item)), Carries digests d s →
      computeOfDict digests d = some (computeOfSnapshot digests s)) ∧
    (∀ s s' : Snapshot, computeOfSnapshot digests s = computeOfSnapshot digests s' →
      s = { s' with expiresAt := s.expiresAt } ∧ s.expiresAt.Alike digests s'.expiresAt) ∧
    ∀ w₀ w : World, Unsold w₀.db → Relation.ReflTransGen (PricedStep digests) w₀ w →
      ∀ c ∈ w.db.checkouts, ∀ (env : Env) (offer : Offer) (merchantId : String)
        (stored : List (String × Json)), HashesPrices digests env →
          Stored digests stored c.priceSnapshot →
            gateHash digests stored offer = some (Payment.currentPriceHash env c offer) ∧
            ((∃ u w', Payment.refusePriceChange env c offer merchantId w = .ok u w') ↔
              offer.unitPriceMinor = c.priceSnapshot.unitPriceMinor ∧
                offer.offerVersion = c.priceSnapshot.offerVersion ∧
                  offer.currency = c.priceSnapshot.currency) := by
  refine ⟨fun s d h => computeOfDict_eq digests h, fun s s' h => factors_of_hash digests h, ?_⟩
  intro w₀ w h₀ hrun c hc env offer merchantId stored henv hstored
  exact ⟨gateHash_eq henv hstored,
    refusePriceChange_iff henv (hashed_of_run h₀ hrun c hc) offer merchantId w⟩

/-! ### A deadline and its text -/

theorem printInt_injective : Function.Injective Json.printInt := by
  intro n m h
  have hn : (Json.int n).exact = true := rfl
  have hm : (Json.int m).exact = true := rfl
  exact Json.int.inj (dumps_injective hn hm h)

/-- The epoch, as `isoformat` writes it. -/
def epochText : String := "1970-01-01T00:00:00+00:00"

/-- A rendering of points in time that has the epoch as Python has it. -/
def sampleIsoformat (t : Time) : String :=
  if t = 0 then epochText else String.ofList (Json.printInt t)

theorem sampleIsoformat_injective : Function.Injective sampleIsoformat := by
  have hepoch : ∀ t : Time, String.ofList (Json.printInt t) ≠ epochText := by
    intro t h
    have hread := Json.loads_dumps ⟨id, true⟩ (v := .int t) rfl
    have htext : Json.dumps (.int t) = epochText.toList := by
      rw [← h, String.toList_ofList]
      rfl
    rw [htext] at hread
    revert hread
    have : Json.loads ⟨id, true⟩ epochText.toList = none := by decide
    rw [this]
    exact nofun
  intro t t' h
  unfold sampleIsoformat at h
  split_ifs at h with ht ht' ht'
  · rw [ht, ht']
  · exact absurd h.symm (hepoch t')
  · exact absurd h (hepoch t)
  · exact printInt_injective (String.ofList_injective h)

/-- Digests that tell everything apart. -/
def sampleDigests : Digests where
  sha256 := String.ofList
  isoformat := sampleIsoformat
  sha256_injective _ _ h := String.ofList_injective h
  isoformat_injective := sampleIsoformat_injective

/-- **Two snapshots of one hash need not be equal.**  The deadline of one is a point in time and
that of the other its text. -/
theorem hash_of_text_deadline : ¬ ∀ s s' : Snapshot,
    computeOfSnapshot sampleDigests s = computeOfSnapshot sampleDigests s' → s = s' := by
  intro h
  let priced (expiresAt : Deadline) : Snapshot :=
    { offerId := "off", offerVersion := 1, unitPriceMinor := 5000, quantity := 1,
      shippingMinor := 0, taxMinor := 0, discountMinor := 0, currency := "INR", expiresAt }
  have heq := h (priced (.time 0)) (priced (.text epochText)) rfl
  exact nomatch congrArg Snapshot.expiresAt heq

end PriceHash
end AgenticCommerce
