/-
# The orders a provider holds

A call may reach the provider and its answer may still be lost, so the log of the calls
does not say what the provider holds: `Holds calls held` relates it to everything it can
hold.  The provider makes one order for a key, and answers with it when it sees the key
again.  A checkout that was always asked for under one key has at most one order
(`Holds.at_most_one`); `createPayment` hands on the client's key, so this is a condition on
the clients of a run (`SteadyStep`).
-/

import AgenticCommerce.Lifecycle.Laws
import AgenticCommerce.Lifecycle.Steps

namespace AgenticCommerce

open Relational Work

/-! ### The provider's side -/

/-- A request arrives: its key has an order, or gets one. -/
def arrive (held : List OrderRequest) (request : OrderRequest) : List OrderRequest :=
  if held.any fun r => r.idempotencyKey == request.idempotencyKey then held else held ++ [request]

/-- The orders a provider may hold after the calls, each as the request that made it. -/
inductive Holds : List ProviderCall → List OrderRequest → Prop where
  | none : Holds [] []
  /-- The request arrived, whatever became of the answer. -/
  | arrived {calls held} (request : OrderRequest) (answer : Except Failure ProviderOrder)
      (h : Holds calls held) : Holds (calls ++ [.createOrder request answer]) (arrive held request)
  /-- The request was lost on its way. -/
  | lost {calls held} (request : OrderRequest) (failure : Failure) (h : Holds calls held) :
      Holds (calls ++ [.createOrder request (.error failure)]) held
  | other {calls held} (call : ProviderCall) (hcall : ∀ request answer, call ≠ .createOrder request answer)
      (h : Holds calls held) : Holds (calls ++ [call]) held

/-- The key under which a call asks for an order for a checkout. -/
def ProviderCall.orderKey? (checkoutId : String) : ProviderCall → Option String
  | .createOrder request _ =>
      if request.receipt = checkoutId then some request.idempotencyKey else none
  | _ => none

/-- The keys under which orders for a checkout were asked for. -/
def keysFor (checkoutId : String) (calls : List ProviderCall) : List String :=
  calls.filterMap (ProviderCall.orderKey? checkoutId)

/-- The orders held for a checkout. -/
def ordersFor (checkoutId : String) (held : List OrderRequest) : List OrderRequest :=
  held.filter fun r => r.receipt == checkoutId

section

variable {id : String} {calls : List ProviderCall} {held : List OrderRequest}

theorem keysFor_append (calls calls' : List ProviderCall) :
    keysFor id (calls ++ calls') = keysFor id calls ++ keysFor id calls' :=
  List.filterMap_append

/-- What is held was asked for, and no two orders have one key. -/
theorem Holds.spec (id : String) (h : Holds calls held) :
    (∀ r ∈ held, r.receipt = id → r.idempotencyKey ∈ keysFor id calls) ∧
      held.Pairwise fun r r' => r.idempotencyKey ≠ r'.idempotencyKey := by
  induction h with
  | none => exact ⟨fun _ h => (nomatch h), .nil⟩
  | @arrived calls held request answer _ ih =>
      obtain ⟨hasked, hdistinct⟩ := ih
      have hkept : ∀ r ∈ held, r.receipt = id →
          r.idempotencyKey ∈ keysFor id (calls ++ [.createOrder request answer]) := fun r hr hid => by
        rw [keysFor_append]
        exact List.mem_append_left _ (hasked r hr hid)
      unfold arrive
      split_ifs with hknown
      · exact ⟨hkept, hdistinct⟩
      · have hnew : ∀ r ∈ held, r.idempotencyKey ≠ request.idempotencyKey := fun r hr hkey =>
          hknown (List.any_eq_true.2 ⟨r, hr, beq_iff_eq.2 hkey⟩)
        constructor
        · intro r hr hid
          rcases List.mem_append.1 hr with hr | hr
          · exact hkept r hr hid
          · rw [List.mem_singleton] at hr
            subst hr
            rw [keysFor_append]
            refine List.mem_append_right _ ?_
            simp [keysFor, ProviderCall.orderKey?, hid]
        · refine List.pairwise_append.2 ⟨hdistinct, List.pairwise_singleton _ _, fun r hr r' hr' => ?_⟩
          rw [List.mem_singleton] at hr'
          subst hr'
          exact hnew r hr
  | lost request failure _ ih =>
      refine ⟨fun r hr hid => ?_, ih.2⟩
      rw [keysFor_append]
      exact List.mem_append_left _ (ih.1 r hr hid)
  | other call _ _ ih =>
      refine ⟨fun r hr hid => ?_, ih.2⟩
      rw [keysFor_append]
      exact List.mem_append_left _ (ih.1 r hr hid)

/-- **One key, one order.** -/
theorem Holds.at_most_one (h : Holds calls held)
    (hkeys : ∀ k ∈ keysFor id calls, ∀ k' ∈ keysFor id calls, k = k') :
    (ordersFor id held).length ≤ 1 := by
  obtain ⟨hasked, hdistinct⟩ := h.spec id
  have hpair : (ordersFor id held).Pairwise fun r r' => r.idempotencyKey ≠ r'.idempotencyKey :=
    hdistinct.filter _
  have hkey : ∀ r ∈ ordersFor id held, r.idempotencyKey ∈ keysFor id calls := fun r hr => by
    obtain ⟨hr, hid⟩ := List.mem_filter.1 hr
    exact hasked r hr (beq_iff_eq.1 hid)
  match hfor : ordersFor id held with
  | [] => exact Nat.zero_le 1
  | [_] => exact le_refl 1
  | r :: r' :: rest =>
      rw [hfor] at hpair hkey
      have hne := (List.pairwise_cons.1 hpair).1 r' (List.mem_cons_self ..)
      exact absurd (hkeys _ (hkey r (List.mem_cons_self ..)) _
        (hkey r' (List.mem_cons_of_mem _ (List.mem_cons_self ..)))) hne

end

/-! ### The clients' side -/

/-- The key that an attempt hands to the provider. -/
def effectiveKey (checkoutId : String) (key : Option String) : String := (given key).getD checkoutId

/-- An operation after which the attempts for a checkout go on under the key they began
with: an attempt to pay it has the key of every order that was asked for before. -/
def SteadyStep (checkoutId : String) (w w' : World) : Prop :=
  ∃ env op, w' = Operation.run env w op ∧ ∀ b m a key, op = .createPayment b m checkoutId a key →
    ∀ k ∈ keysFor checkoutId w.calls, k = effectiveKey checkoutId key

/-- The orders that were asked for in between are under the key `k`. -/
def AsksUnder (id k : String) (calls calls' : List ProviderCall) : Prop :=
  ∃ n, keysFor id calls' = keysFor id calls ++ List.replicate n k

instance {id k : String} : IsPreorder (List ProviderCall) (AsksUnder id k) where
  refl _ := ⟨0, (List.append_nil _).symm⟩
  trans _ _ _ := by
    rintro ⟨n, h⟩ ⟨n', h'⟩
    exact ⟨n + n', by rw [h', h, List.append_assoc, List.replicate_append_replicate]⟩

/-- No order for the checkout is asked for. -/
def AsksNothing (id : String) (calls calls' : List ProviderCall) : Prop :=
  keysFor id calls = keysFor id calls'

instance {id : String} : IsPreorder (List ProviderCall) (AsksNothing id) where
  refl _ := rfl
  trans _ _ _ h h' := h.trans h'

section

variable {env : Env} {w w₀ : World} {id : String}

/-- An attempt to pay asks for orders for its own checkout only, under its key. -/
theorem createPayment_asks {b m id' a : String} {key : Option String} :
    (id' ≠ id → AsksNothing id w.calls
        (request (Payment.createPayment env b m id' a key) w).calls) ∧
      (id' = id → AsksUnder id (effectiveKey id key) w.calls
        (request (Payment.createPayment env b m id' a key) w).calls) := by
  constructor
  · intro hne
    refine request_calls (S := Anything) (createPayment_calls fun calls c p answer hc _ _ _ => ?_) w
    rw [AsksNothing, keysFor_append]
    simp [keysFor, ProviderCall.orderKey?, Payment.orderRequest, hc, hne]
  · rintro rfl
    refine request_calls (S := Anything) (createPayment_calls fun calls c p answer hc _ _ hp => ?_) w
    refine ⟨1, ?_⟩
    rw [keysFor_append]
    simp [keysFor, ProviderCall.orderKey?, Payment.orderRequest, hc, hp, effectiveKey]

/-- An operation that is no attempt to pay the checkout asks for no order for it. -/
theorem asksNothing_of_step {op : Operation} (hop : ¬∃ b m a key, op = .createPayment b m id a key) :
    AsksNothing id w.calls (op.run env w).calls := by
  refine op.calls_of (fun calls _ _ _ => ?_) fun b m id' a key h => ?_
  · rw [AsksNothing, keysFor_append]
    simp [keysFor, ProviderCall.orderKey?]
  · exact createPayment_asks.1 fun hid => hop ⟨b, m, a, key, by rw [h, hid]⟩

/-- In a run of steady steps, the orders for a checkout are asked for under one key. -/
theorem one_key_of_run (h₀ : w₀.calls = [])
    (hrun : Relation.ReflTransGen (SteadyStep id) w₀ w) :
    ∀ k ∈ keysFor id w.calls, ∀ k' ∈ keysFor id w.calls, k = k' := by
  refine invariant_of_steps
    (I := fun w : World => ∀ k ∈ keysFor id w.calls, ∀ k' ∈ keysFor id w.calls, k = k')
    (fun u v hu huv => ?_) (by rw [h₀]; exact fun k hk => nomatch hk) hrun
  obtain ⟨env, op, rfl, hsteady⟩ := huv
  by_cases hop : ∃ b m a key, op = .createPayment b m id a key
  · obtain ⟨b, m, a, key, rfl⟩ := hop
    obtain ⟨n, hasked⟩ : AsksUnder id (effectiveKey id key) u.calls
        (request (Payment.createPayment env b m id a key) u).calls := createPayment_asks.2 rfl
    have hall : ∀ k ∈ keysFor id (Operation.run env u (.createPayment b m id a key)).calls,
        k = effectiveKey id key := fun k hk => by
      rw [Operation.run, hasked] at hk
      rcases List.mem_append.1 hk with hk | hk
      · exact hsteady b m a key rfl k hk
      · exact List.eq_of_mem_replicate hk
    exact fun k hk k' hk' => (hall k hk).trans (hall k' hk').symm
  · have hsame : AsksNothing id u.calls (op.run env u).calls := asksNothing_of_step hop
    rw [← show keysFor id u.calls = keysFor id (op.run env u).calls from hsame]
    exact hu

end
/-! ### A retry under another key -/

/-- The shop, whose provider does not answer in time. -/
def silentEnv : Env :=
  { shopEnv with provider := { capturingProvider with
      createOrder := fun _ _ => .error (.raised "Razorpay provider timed out." .paymentTimeout) } }

/-- An attempt under the client's first key was not answered. -/
def unansweredOnce : World :=
  (Operation.createPayment "byr" "mer" "chk" "ath" (some "key_1")).run silentEnv authorizedOnce

/-- The client tries again, under another key. -/
def triedAgain (key : Option String) : World :=
  (Operation.createPayment "byr" "mer" "chk" "ath" key).run shopEnv unansweredOnce

/-- What the provider is asked for under a key. -/
def shopRequest (key : String) : OrderRequest := ⟨200, "INR", "chk", "chk", "pay", key⟩

theorem unansweredOnce_calls : unansweredOnce.calls =
    [.createOrder (shopRequest "key_1")
      (.error (.raised "Razorpay provider timed out." .paymentTimeout))] := rfl

end AgenticCommerce
