/-
# Confirmations of the web tier

What a request to verify a payment may do to the orders.  The guard against replays looks
at the payment's identifier, the amount is that of the checkout the body names, and the
writers replace whatever shares a unique column, each an identifier of the body.  A request
keeps the stored orders and confirms a frozen checkout once exactly when it is careful
(`run_sound_iff`): it names a checkout that no order is for, in the checkout's currency,
and its order takes no identifier and no number that is taken.  So does a run of requests
exactly when each of them is (`confirmsOnce_iff`).
-/

import AgenticCommerce.Web.Orders

namespace AgenticCommerce

open Relational

namespace Web

/-! ### The property -/

/-- **The orders are sound**: a payment and a checkout are on one order at most, and an
order has the total and the currency of the checkout it is for. -/
structure Sound (s : Store) : Prop where
  payment_once : ∀ o ∈ s.orders, ∀ o' ∈ s.orders, o.paymentId = o'.paymentId → o = o'
  checkout_once : ∀ o ∈ s.orders, ∀ o' ∈ s.orders, trim o.checkoutId = trim o'.checkoutId → o = o'
  frozen : ∀ o ∈ s.orders, ∃ c ∈ s.checkouts, c.checkoutId = trim o.checkoutId ∧
    o.totalMinor = c.totalMinor ∧ o.currency = c.shownCurrency

/-- No order is replaced or altered. -/
def KeepsOrders (s s' : Store) : Prop := ∀ o ∈ s.orders, o ∈ s'.orders

/-- The payment of every order is recorded. -/
def Recorded (s : Store) : Prop := ∀ o ∈ s.orders, ∃ p ∈ s.payments, p.paymentId = o.paymentId

/-! ### The condition -/

/-- Production settings with a key secret. -/
structure Runtime.Production (runtime : Runtime) : Prop where
  simulated : runtime.simulatedPaymentsAllowed = false
  secret : isSet runtime.razorpayKeySecret = true

/-- An identifier as the provider gives them. -/
structure ProviderId (id : String) : Prop where
  trimmed : trim id = id
  nonempty : id ≠ ""
  bare : '|' ∉ id.toList

/-- The signature of a body is on a message only if the provider signed that message, for
an order and a payment of its own. -/
def Unforged (runtime : Runtime) (issued : String → String → Prop) (body : VerifyBody) : Prop :=
  ∀ secret ∈ runtime.razorpayKeySecret, ∀ message,
    body.razorpaySignature = .str (runtime.hmac secret message) →
      ∃ orderId paymentId, issued orderId paymentId ∧ message = orderId ++ "|" ++ paymentId

/-- The body names a checkout. -/
def Names (checkoutId : Json) : Prop := ∃ id, checkoutId = .str id ∧ trim id ≠ ""

/-- A request whose payment is not recorded yet, whose signature verifies and whose amount
settles, with the identifiers and the currency it writes. -/
structure Confirms (runtime : Runtime) (moment : Moment) (s : Store) (body : VerifyBody)
    (paymentId checkoutId currency orderId : String) : Prop where
  payment : body.razorpayPaymentId = .str paymentId
  unrecorded : s.paymentById paymentId = none
  signed : verifyPaymentSignature runtime
    (orElse body.razorpayOrderId (.str (moment.stamped "order"))) paymentId
    body.razorpaySignature = none
  settles : (authoritativeAmountMinor runtime s body.checkoutId
    (nullish body.amount body.amountMinor)).isSome
  providerOrder : (runtime.column
    (orElse body.razorpayOrderId (.str (moment.stamped "order")))).isSome
  checkout : runtime.column (orElse body.checkoutId (.str (moment.stamped "chk"))) = some checkoutId
  money : runtime.column (orElse body.currency (.str
    (((authoritativeAmountMinor runtime s body.checkoutId
      (nullish body.amount body.amountMinor)).map Prod.snd).getD "INR"))) = some currency
  order : runtime.column (orElse body.confirmedOrderId (.str (moment.minted "ord"))) = some orderId

/-- A confirmation is careful: it is for a frozen checkout, in the checkout's currency, that
it names or whose total it asks for; no order is for that checkout, and none has the
identifier or the number of the new one. -/
structure CarefulConfirmation (runtime : Runtime) (moment : Moment) (s : Store)
    (body : VerifyBody) (checkoutId currency orderId : String) : Prop where
  frozen : ∃ c ∈ s.checkouts, c.checkoutId = trim checkoutId ∧ currency = c.shownCurrency ∧
    (Names body.checkoutId ∨
      runtime.integerOf (nullish body.amount body.amountMinor) = some c.totalMinor)
  first : ∀ o ∈ s.orders, trim o.checkoutId ≠ trim checkoutId
  order : ∀ o ∈ s.orders, o.orderId ≠ orderId
  number : ∀ o ∈ s.orders, o.orderNumber ≠ moment.orderNumber

/-- **A request is careful** in a state: if it confirms a payment the confirmation is, and if
it freezes a checkout under an identifier that an order is for, it is frozen as it was. -/
def Request.Careful (runtime : Runtime) (moment : Moment) (s : Store) : Request → Prop
  | checkout unitPrice body => ∀ prices,
      (cartLines body).mapM (linePrice runtime unitPrice) = .ok prices → ∀ o ∈ s.orders,
        trim o.checkoutId = moment.minted "chk" → o.totalMinor = prices.sum ∧ o.currency = "INR"
  | verification body => ∀ paymentId checkoutId currency orderId,
      Confirms runtime moment s body paymentId checkoutId currency orderId →
        CarefulConfirmation runtime moment s body checkoutId currency orderId

/-- The signature a request presents, if any, is not forged. -/
def Request.Unforged (runtime : Runtime) (issued : String → String → Prop) : Request → Prop
  | checkout _ _ => True
  | verification body => Web.Unforged runtime issued body

/-! ### Runs -/

/-- The store after requests, each at its moment. -/
def Store.after (runtime : Runtime) (s : Store) (steps : List (Moment × Request)) : Store :=
  steps.foldl (fun s step => step.2.run runtime step.1 s) s

/-- **The requests confirm once and at the frozen amount**: after any of them the orders are
sound, and the orders stored by then are stored from there on. -/
def ConfirmsOnce (runtime : Runtime) (s : Store) (steps : List (Moment × Request)) : Prop :=
  ∀ earlier between later, steps = earlier ++ between ++ later →
    Sound (s.after runtime (earlier ++ between)) ∧
      KeepsOrders (s.after runtime earlier) (s.after runtime (earlier ++ between))

/-- Each of the requests is careful where it arrives. -/
def CarefulRun (runtime : Runtime) (s : Store) (steps : List (Moment × Request)) : Prop :=
  ∀ earlier step later, steps = earlier ++ step :: later →
    step.2.Careful runtime step.1 (s.after runtime earlier)

/-! ### Identifiers -/

theorem trim_trim (text : String) : trim (trim text) = trim text := by
  have hhead : (((text.toList.dropWhile isWhiteSpace).rdropWhile isWhiteSpace).dropWhile
      isWhiteSpace) = (text.toList.dropWhile isWhiteSpace).rdropWhile isWhiteSpace := by
    refine List.dropWhile_eq_self_iff.2 fun hlength hspace => ?_
    obtain ⟨back, hback⟩ := List.rdropWhile_prefix isWhiteSpace (text.toList.dropWhile isWhiteSpace)
    have hfirst := List.head?_dropWhile_not isWhiteSpace text.toList
    rw [← hback, List.head?_append, List.head?_eq_getElem?, List.getElem?_eq_getElem hlength]
      at hfirst
    simp only [Option.some_or] at hfirst
    rw [hspace] at hfirst
    exact Bool.noConfusion hfirst
  rw [trim, trim, String.toList_ofList, hhead, List.rdropWhile_idempotent]

/-- A message of two identifiers is taken apart at its one separator. -/
theorem eq_of_message_eq {a b o p : String} (h : a ++ "|" ++ b = o ++ "|" ++ p)
    (ho : '|' ∉ o.toList) (hp : '|' ∉ p.toList) : b = p := by
  have hlist : a.toList ++ '|' :: b.toList = o.toList ++ '|' :: p.toList := by
    have := congrArg String.toList h
    simpa [String.toList_append, List.append_assoc] using this
  rcases List.append_eq_append_iff.1 hlist with ⟨rest, hrest, hb⟩ | ⟨rest, hrest, hb⟩
  · cases rest with
    | nil => exact String.toList_inj.1 (List.cons.inj hb).2
    | cons c rest =>
        have hc : '|' = c := (List.cons.inj hb).1
        rw [hrest, ← hc] at ho
        exact absurd (List.mem_append_right _ List.mem_cons_self) ho
  · cases rest with
    | nil => exact String.toList_inj.1 (List.cons.inj hb).2.symm
    | cons c rest =>
        rw [(List.cons.inj hb).2] at hp
        exact absurd (List.mem_append_right _ List.mem_cons_self) hp

section

variable {runtime : Runtime} {moment : Moment} {issued : String → String → Prop} {s s' : Store}
  {body : VerifyBody} {paymentId checkoutId currency orderId : String}

/-! ### Signatures -/

/-- No signature verifies without a payment identifier. -/
theorem verifyPaymentSignature_nil {order signature : Json} :
    verifyPaymentSignature runtime order "" signature ≠ none := by
  unfold verifyPaymentSignature
  split
  · simp
  · exact nofun

/-- With production settings only the keyed hash of the message verifies. -/
theorem verifyPaymentSignature_eq_none (hproduction : runtime.Production) {order signature : Json}
    (h : verifyPaymentSignature runtime order paymentId signature = none) :
    paymentId ≠ "" ∧ ∃ secret ∈ runtime.razorpayKeySecret,
      signature = .str (runtime.hmac secret (runtime.text order ++ "|" ++ paymentId)) := by
  obtain ⟨secret, hsecret⟩ := Option.isSome_iff_exists.1 (Option.isSome_of_any hproduction.secret)
  have htruthy : truthy runtime.razorpayKeySecret = some secret := by
    have hset := hproduction.secret
    rw [hsecret] at hset ⊢
    simpa [truthy, isSet, Option.filter] using hset
  unfold verifyPaymentSignature at h
  split at h
  case h_2 => exact nomatch h
  case h_1 presented =>
    simp only [htruthy, hproduction.simulated, Bool.not_false, if_true] at h
    split_ifs at h with hempty hsim hsigned
    exact ⟨fun hnil => hempty (.inl hnil), secret, hsecret, congrArg Json.str hsigned⟩

/-- What is signed is a payment of the provider. -/
theorem Confirms.providerId (hproduction : runtime.Production)
    (hids : ∀ o p, issued o p → ProviderId o ∧ ProviderId p)
    (hunforged : Unforged runtime issued body)
    (h : Confirms runtime moment s body paymentId checkoutId currency orderId) :
    ProviderId paymentId := by
  obtain ⟨-, secret, hsecret, hsignature⟩ := verifyPaymentSignature_eq_none hproduction h.signed
  obtain ⟨o, p, hissued, hmessage⟩ := hunforged secret hsecret _ hsignature
  obtain ⟨ho, hp⟩ := hids o p hissued
  rw [eq_of_message_eq hmessage ho.bare hp.bare]
  exact hp

/-! ### What a verification writes -/

/-- A request confirms one payment in one way. -/
theorem Confirms.unique {paymentId' checkoutId' currency' orderId' : String}
    (h : Confirms runtime moment s body paymentId checkoutId currency orderId)
    (h' : Confirms runtime moment s body paymentId' checkoutId' currency' orderId') :
    paymentId' = paymentId ∧ checkoutId' = checkoutId ∧ currency' = currency ∧
      orderId' = orderId :=
  ⟨Json.str.inj (h'.payment.symm.trans h.payment),
    Option.some.inj (h'.checkout.symm.trans h.checkout),
    Option.some.inj (h'.money.symm.trans h.money), Option.some.inj (h'.order.symm.trans h.order)⟩

/-- The row a confirmation stores. -/
def confirmedRow (moment : Moment) (paymentId checkoutId currency orderId : String) (total : ℤ) :
    OrderRow where
  orderId := orderId
  orderNumber := moment.orderNumber
  checkoutId := checkoutId
  paymentId := paymentId
  totalMinor := total
  amountMinor := total
  currency := currency

/-- The payment identifier that a body has signed. -/
def VerifyBody.presented (body : VerifyBody) : String :=
  match body.razorpayPaymentId with
  | .str id => id
  | _ => ""

/-- The payment that is signed is the one that is recorded. -/
theorem presented_of_signed {fallback order signature : Json}
    (hid : orElse body.razorpayPaymentId fallback = .str paymentId)
    (hsigned : verifyPaymentSignature runtime order body.presented signature = none) :
    body.razorpayPaymentId = .str paymentId ∧ body.presented = paymentId := by
  have hne : body.presented ≠ "" := by
    intro hnil
    rw [hnil] at hsigned
    exact verifyPaymentSignature_nil hsigned
  cases hpayment : body.razorpayPaymentId with
  | str id =>
      have hid' : body.presented = id := by rw [VerifyBody.presented, hpayment]
      rw [hid'] at hne ⊢
      rw [hpayment, orElse, if_pos (by simpa [truth] using hne)] at hid
      exact ⟨hid, Json.str.inj hid⟩
  | _ => exact absurd (by rw [VerifyBody.presented, hpayment]) hne

/-- What a request whose payment is not recorded yet stores. -/
theorem postVerification_of_unrecorded
    (hid : orElse body.razorpayPaymentId (.str (moment.stamped "pay")) = .str paymentId)
    (hunrecorded : s.paymentById paymentId = none) :
    (postVerification runtime moment body s).2 = match verifyPaymentSignature runtime
        (orElse body.razorpayOrderId (.str (moment.stamped "order"))) body.presented
        body.razorpaySignature, authoritativeAmountMinor runtime s body.checkoutId
          (nullish body.amount body.amountMinor) with
      | none, some settled => (confirm runtime moment body paymentId settled s).2
      | _, _ => s := by
  simp only [postVerification, hid, Store.replayedVerification, hunrecorded, Option.map_none]
  unfold VerifyBody.presented
  cases verifyPaymentSignature runtime (orElse body.razorpayOrderId (.str (moment.stamped "order")))
      (match body.razorpayPaymentId with | .str id => id | _ => "") body.razorpaySignature with
  | some code => rfl
  | none =>
      cases authoritativeAmountMinor runtime s body.checkoutId
          (nullish body.amount body.amountMinor) with
      | none => rfl
      | some settled => rfl

/-- What a request that confirms a payment stores: the payment, then the order. -/
theorem postVerification_of_confirms
    (h : Confirms runtime moment s body paymentId checkoutId currency orderId) :
    ∃ settled payment, authoritativeAmountMinor runtime s body.checkoutId
        (nullish body.amount body.amountMinor) = some settled ∧
      payment.paymentId = paymentId ∧
      (postVerification runtime moment body s).2 = (s.savePayment payment).saveOrder
        (confirmedRow moment paymentId checkoutId currency orderId settled.1) := by
  obtain ⟨settled, hsettled⟩ := Option.isSome_iff_exists.1 h.settles
  obtain ⟨provider, hprovider⟩ := Option.isSome_iff_exists.1 h.providerOrder
  have hne : paymentId ≠ "" := by
    rintro rfl
    exact verifyPaymentSignature_nil h.signed
  have hid : orElse body.razorpayPaymentId (.str (moment.stamped "pay")) = .str paymentId := by
    rw [h.payment, orElse, if_pos (by simpa [truth] using hne)]
  have hpresented : body.presented = paymentId := by
    rw [VerifyBody.presented, h.payment]
  have hmoney := h.money
  rw [hsettled, Option.map_some, Option.getD_some] at hmoney
  refine ⟨settled, ⟨paymentId, checkoutId, "verified", settled.1, currency, provider⟩, hsettled,
    rfl, ?_⟩
  rw [postVerification_of_unrecorded hid h.unrecorded, hpresented, h.signed, hsettled]
  simp only [confirm, h.checkout, hprovider, hmoney, h.order]
  rfl

/-- A request that confirms no payment stores no order. -/
theorem postVerification_cases :
    (∃ paymentId checkoutId currency orderId,
      Confirms runtime moment s body paymentId checkoutId currency orderId) ∨
    (postVerification runtime moment body s).2 = s ∨
      ∃ payment, (postVerification runtime moment body s).2 = s.savePayment payment := by
  cases hid : orElse body.razorpayPaymentId (.str (moment.stamped "pay")) with
  | str paymentId =>
    cases hreplay : s.paymentById paymentId with
    | some existing =>
        exact .inr (.inl (by simp [postVerification, hid, Store.replayedVerification, hreplay]))
    | none =>
      rw [postVerification_of_unrecorded hid hreplay]
      cases hsigned : verifyPaymentSignature runtime
          (orElse body.razorpayOrderId (.str (moment.stamped "order"))) body.presented
          body.razorpaySignature with
      | some code => exact .inr (.inl rfl)
      | none =>
        cases hsettled : authoritativeAmountMinor runtime s body.checkoutId
            (nullish body.amount body.amountMinor) with
        | none => exact .inr (.inl rfl)
        | some settled =>
          have hpayment := presented_of_signed hid hsigned
          simp only [confirm]
          split
          · rename_i checkoutId currency provider hcheckout hmoney hprovider
            split
            · exact .inr (.inr ⟨_, rfl⟩)
            · rename_i orderId horder
              refine .inl ⟨paymentId, checkoutId, currency, orderId, hpayment.1, hreplay,
                hpayment.2 ▸ hsigned, by rw [hsettled]; rfl, by rw [hprovider]; rfl, hcheckout,
                ?_, horder⟩
              rw [hsettled]
              exact hmoney
          · exact .inr (.inl rfl)
  | _ => exact .inr (.inl (by simp [postVerification, hid]))

/-! ### The settled amount -/

/-- The amount of a request that names a checkout is the checkout's total. -/
theorem settled_of_names {id : String} {requested : Json} {settled : ℤ × String}
    (hid : trim id ≠ "")
    (h : authoritativeAmountMinor runtime s (.str id) requested = some settled) :
    ∃ c ∈ s.checkouts, c.checkoutId = trim id ∧ settled.1 = c.totalMinor := by
  simp only [authoritativeAmountMinor, if_neg hid] at h
  cases hfound : s.checkoutById (trim id) with
  | none => simp [hfound] at h
  | some c =>
      rw [Store.checkoutById, trim_trim, if_neg hid] at hfound
      obtain ⟨hc, hkey⟩ := Table.first_eq_some hfound
      simp only [Store.checkoutById, trim_trim, if_neg hid, hfound] at h
      split_ifs at h
      exact ⟨c, hc, by simpa using hkey, by rw [← Option.some.inj h]⟩

/-- The amount of a request that names none is the one it asks for. -/
theorem settled_of_not_names {checkout requested : Json} {settled : ℤ × String}
    (hnames : ¬Names checkout)
    (h : authoritativeAmountMinor runtime s checkout requested = some settled) :
    runtime.integerOf requested = some settled.1 := by
  have hasked : authoritativeAmountMinor runtime s .null requested = some settled := by
    cases checkout with
    | str id =>
        simp only [authoritativeAmountMinor] at h ⊢
        rwa [if_pos (by by_contra hid; exact hnames ⟨id, rfl, hid⟩)] at h
    | _ => exact h
  cases hn : runtime.integerOf requested with
  | none => simp [authoritativeAmountMinor, hn] at hasked
  | some n =>
      simp only [authoritativeAmountMinor, hn] at hasked
      split_ifs at hasked
      rw [← Option.some.inj hasked]

/-- A checkout that is named is the one that is written. -/
theorem Confirms.checkout_of_names {id : String} (hbody : body.checkoutId = .str id)
    (hid : trim id ≠ "")
    (h : Confirms runtime moment s body paymentId checkoutId currency orderId) :
    checkoutId = id := by
  have hne : id ≠ "" := by
    rintro rfl
    exact hid rfl
  have hcheckout := h.checkout
  rw [hbody, orElse, if_pos (by simpa [truth] using hne)] at hcheckout
  exact (Option.some.inj hcheckout).symm

/-- What is written for a checkout that is frozen: its total, if it is named or asked for,
and only then. -/
theorem Confirms.total_eq_iff {settled : ℤ × String} {c : CheckoutRow} (hc : c ∈ s.checkouts)
    (hkey : c.checkoutId = trim checkoutId)
    (h : Confirms runtime moment s body paymentId checkoutId currency orderId)
    (hsettled : authoritativeAmountMinor runtime s body.checkoutId
      (nullish body.amount body.amountMinor) = some settled) :
    settled.1 = c.totalMinor ↔ Names body.checkoutId ∨
      runtime.integerOf (nullish body.amount body.amountMinor) = some c.totalMinor := by
  by_cases hnames : Names body.checkoutId
  · obtain ⟨id, hbody, hid⟩ := hnames
    refine ⟨fun _ => .inl ⟨id, hbody, hid⟩, fun _ => ?_⟩
    rw [hbody] at hsettled
    obtain ⟨c', hc', hkey', htotal⟩ := settled_of_names hid hsettled
    have hsame : c' = c := Table.eq_of_clash hc' hc (by
      simp [clashes, Keyed.clash, Keyed.key, hkey, hkey', h.checkout_of_names hbody hid])
    rw [htotal, hsame]
  · rw [settled_of_not_names hnames hsettled, Option.some.injEq]
    exact ⟨.inr, fun h => h.resolve_left hnames⟩

/-! ### One request -/

/-- A payment that a request records anew is on no order yet. -/
theorem Confirms.not_ordered (hrecorded : Recorded s) (hid : ProviderId paymentId)
    (h : Confirms runtime moment s body paymentId checkoutId currency orderId) :
    ∀ o ∈ s.orders, o.paymentId ≠ paymentId := by
  intro o ho hsame
  obtain ⟨p, hp, hpayment⟩ := hrecorded o ho
  have hnone := h.unrecorded
  rw [Store.paymentById, hid.trimmed, if_neg hid.nonempty, Table.first_eq_none] at hnone
  have := hnone p hp
  rw [hpayment, hsame] at this
  simp at this

theorem clashes_order {o o' : OrderRow} : clashes o o' = false ↔ o.orderId ≠ o'.orderId ∧
    o.orderNumber ≠ o'.orderNumber ∧ o.checkoutId ≠ o'.checkoutId ∧
      o.paymentId ≠ o'.paymentId := by
  simp [clashes, Keyed.clash, Keyed.key, and_assoc]

/-- A new order for a payment of its own keeps the orders sound and stored exactly when it
is for a frozen checkout that no other is for and has an identifier and a number of its
own. -/
theorem saveOrder_sound_iff {row : OrderRow} (payment : PaymentRow) (hsound : Sound s)
    (hnew : ∀ o ∈ s.orders, o.paymentId ≠ row.paymentId) :
    (Sound ((s.savePayment payment).saveOrder row) ∧
      KeepsOrders s ((s.savePayment payment).saveOrder row)) ↔
    (∃ c ∈ s.checkouts, c.checkoutId = trim row.checkoutId ∧ row.totalMinor = c.totalMinor ∧
      row.currency = c.shownCurrency) ∧
    (∀ o ∈ s.orders, trim o.checkoutId ≠ trim row.checkoutId) ∧
    (∀ o ∈ s.orders, o.orderId ≠ row.orderId) ∧
      ∀ o ∈ s.orders, o.orderNumber ≠ row.orderNumber := by
  have hstored : ∀ {o}, o ∈ ((s.savePayment payment).saveOrder row).orders ↔
      o = row ∨ o ∈ s.orders ∧ clashes o row = false := Table.mem_insertOrReplace
  constructor
  · rintro ⟨hsound', hkeeps⟩
    -- a kept order is not the new one, so it shares no column with it
    have hapart : ∀ o ∈ s.orders, clashes o row = false := fun o ho =>
      ((hstored.1 (hkeeps o ho)).resolve_left fun heq => hnew o ho (heq ▸ rfl)).2
    refine ⟨hsound'.frozen row (hstored.2 (.inl rfl)), fun o ho htrim => ?_,
      fun o ho => (clashes_order.1 (hapart o ho)).1,
      fun o ho => (clashes_order.1 (hapart o ho)).2.1⟩
    have heq := hsound'.checkout_once o (hkeeps o ho) row (hstored.2 (.inl rfl)) htrim
    exact hnew o ho (heq ▸ rfl)
  · rintro ⟨hfrozen, hfirst, horder, hnumber⟩
    refine ⟨⟨fun o ho o' ho' h => ?_, fun o ho o' ho' h => ?_, fun o ho => ?_⟩, fun o ho => ?_⟩
    · rcases hstored.1 ho with heq | ⟨hold, -⟩ <;> rcases hstored.1 ho' with heq' | ⟨hold', -⟩
      · rw [heq, heq']
      · exact absurd (heq ▸ h).symm (hnew o' hold')
      · exact absurd (heq' ▸ h) (hnew o hold)
      · exact hsound.payment_once o hold o' hold' h
    · rcases hstored.1 ho with heq | ⟨hold, -⟩ <;> rcases hstored.1 ho' with heq' | ⟨hold', -⟩
      · rw [heq, heq']
      · exact absurd (heq ▸ h).symm (hfirst o' hold')
      · exact absurd (heq' ▸ h) (hfirst o hold)
      · exact hsound.checkout_once o hold o' hold' h
    · rcases hstored.1 ho with rfl | ⟨hold, -⟩
      · exact hfrozen
      · exact hsound.frozen o hold
    · refine hstored.2 (.inr ⟨ho, clashes_order.2 ⟨horder o ho, hnumber o ho, fun heq => ?_,
        hnew o ho⟩⟩)
      exact hfirst o ho (congrArg trim heq)

/-- A confirmation keeps the orders sound and stored exactly when it is careful. -/
theorem Confirms.sound_iff (hsound : Sound s) (hrecorded : Recorded s) (hid : ProviderId paymentId)
    (h : Confirms runtime moment s body paymentId checkoutId currency orderId) :
    (Sound (postVerification runtime moment body s).2 ∧
      KeepsOrders s (postVerification runtime moment body s).2) ↔
      CarefulConfirmation runtime moment s body checkoutId currency orderId := by
  obtain ⟨settled, payment, hsettled, -, hrun⟩ := postVerification_of_confirms h
  rw [hrun, saveOrder_sound_iff payment hsound (h.not_ordered hrecorded hid)]
  constructor
  · rintro ⟨⟨c, hc, hkey, htotal, hcurrency⟩, hfirst, horder, hnumber⟩
    exact ⟨⟨c, hc, hkey, hcurrency, (h.total_eq_iff hc hkey hsettled).1 htotal⟩, hfirst, horder,
      hnumber⟩
  · rintro ⟨⟨c, hc, hkey, hcurrency, hasked⟩, hfirst, horder, hnumber⟩
    exact ⟨⟨c, hc, hkey, (h.total_eq_iff hc hkey hsettled).2 hasked, hcurrency⟩, hfirst, horder,
      hnumber⟩

/-- The orders are as sound as before where they and the checkouts stay. -/
theorem sound_congr (horders : s'.orders = s.orders) (hcheckouts : s'.checkouts = s.checkouts)
    (hsound : Sound s) : Sound s' ∧ KeepsOrders s s' := by
  refine ⟨⟨?_, ?_, ?_⟩, fun o ho => horders ▸ ho⟩
  · rw [horders]
    exact hsound.payment_once
  · rw [horders]
    exact hsound.checkout_once
  · rw [horders, hcheckouts]
    exact hsound.frozen

/-- A checkout keeps the orders sound exactly when it freezes no other total under the
identifier of one that an order is for. -/
theorem sound_saveCheckout_iff {row : CheckoutRow} (hsound : Sound s) :
    Sound (s.saveCheckout row) ↔ ∀ o ∈ s.orders, trim o.checkoutId = row.checkoutId →
      o.totalMinor = row.totalMinor ∧ o.currency = row.shownCurrency := by
  constructor
  · intro hsound' o ho htrim
    obtain ⟨c, hc, hkey, hmoney⟩ := hsound'.frozen o ho
    rcases Table.mem_insertOrReplace.1 hc with rfl | ⟨-, hapart⟩
    · exact hmoney
    · rw [htrim] at hkey
      simp [clashes, Keyed.clash, Keyed.key, hkey] at hapart
  · intro hsame
    refine ⟨hsound.payment_once, hsound.checkout_once, fun o ho => ?_⟩
    by_cases htrim : trim o.checkoutId = row.checkoutId
    · exact ⟨row, Table.mem_insertOrReplace.2 (.inl rfl), htrim.symm, hsame o ho htrim⟩
    · obtain ⟨c, hc, hkey, hmoney⟩ := hsound.frozen o ho
      refine ⟨c, Table.mem_insertOrReplace.2 (.inr ⟨hc, ?_⟩), hkey, hmoney⟩
      rw [← hkey] at htrim
      simpa [clashes, Keyed.clash, Keyed.key] using htrim

/-- **A request keeps the orders sound and stored exactly when it is careful.** -/
theorem run_sound_iff (hproduction : runtime.Production)
    (hids : ∀ o p, issued o p → ProviderId o ∧ ProviderId p) {r : Request}
    (hunforged : r.Unforged runtime issued) (hsound : Sound s) (hrecorded : Recorded s) :
    (Sound (r.run runtime moment s) ∧ KeepsOrders s (r.run runtime moment s)) ↔
      r.Careful runtime moment s := by
  cases r with
  | checkout unitPrice body =>
      cases hprices : (cartLines body).mapM (linePrice runtime unitPrice) with
      | error code =>
          have hrun : (Request.checkout unitPrice body).run runtime moment s = s := by
            simp [Request.run, postCheckout, hprices]
          rw [hrun]
          refine ⟨fun _ prices h => ?_, fun _ => ⟨hsound, fun o ho => ho⟩⟩
          exact nomatch hprices.symm.trans h
      | ok prices =>
          have hrun : (Request.checkout unitPrice body).run runtime moment s =
              s.saveCheckout { checkoutId := moment.minted "chk", totalMinor := prices.sum } := by
            simp [Request.run, postCheckout, hprices]
          have hkeeps : KeepsOrders s
              (s.saveCheckout { checkoutId := moment.minted "chk", totalMinor := prices.sum }) :=
            fun o ho => ho
          rw [hrun, and_iff_left hkeeps, sound_saveCheckout_iff hsound]
          constructor
          · intro h prices' hprices'
            obtain rfl := Except.ok.inj (hprices.symm.trans hprices')
            exact h
          · intro h
            exact h prices hprices
  | verification body =>
      by_cases hconfirms : ∃ p c m o, Confirms runtime moment s body p c m o
      · obtain ⟨p, c, m, o, h⟩ := hconfirms
        refine (h.sound_iff hsound hrecorded (h.providerId hproduction hids hunforged)).trans
          ⟨fun hcareful p' c' m' o' h' => ?_, fun hcareful => hcareful p c m o h⟩
        obtain ⟨-, rfl, rfl, rfl⟩ := h.unique h'
        exact hcareful
      · have hnone := postVerification_cases.resolve_left hconfirms
        have hcareful : (Request.verification body).Careful runtime moment s :=
          fun p c m o h => absurd ⟨p, c, m, o, h⟩ hconfirms
        refine iff_of_true ?_ hcareful
        show Sound (postVerification runtime moment body s).2 ∧
          KeepsOrders s (postVerification runtime moment body s).2
        rcases hnone with hrun | ⟨payment, hrun⟩
        · exact sound_congr (by rw [hrun]) (by rw [hrun]) hsound
        · exact sound_congr (by rw [hrun]; rfl) (by rw [hrun]; rfl) hsound

/-- A recorded payment stays recorded. -/
theorem recorded_savePayment {p row : PaymentRow} (hp : p ∈ s.payments) :
    ∃ p' ∈ (s.savePayment row).payments, p'.paymentId = p.paymentId := by
  by_cases hsame : p.paymentId = row.paymentId
  · exact ⟨row, Table.mem_insertOrReplace.2 (.inl rfl), hsame.symm⟩
  · exact ⟨p, Table.mem_insertOrReplace.2 (.inr ⟨hp, by
      simpa [clashes, Keyed.clash, Keyed.key] using hsame⟩), rfl⟩

/-- After a request the payments of the orders are recorded as before. -/
theorem run_recorded {r : Request} (hrecorded : Recorded s) :
    Recorded (r.run runtime moment s) := by
  have hsaved : ∀ payment, Recorded (s.savePayment payment) := by
    intro payment o ho
    obtain ⟨p, hp, hpayment⟩ := hrecorded o ho
    rw [← hpayment]
    exact recorded_savePayment hp
  cases r with
  | checkout unitPrice body =>
      show Recorded (postCheckout runtime moment unitPrice body s).2
      unfold postCheckout
      split
      · exact hrecorded
      · exact hrecorded
  | verification body =>
      show Recorded (postVerification runtime moment body s).2
      rcases @postVerification_cases runtime moment s body with ⟨p, c, m, o, h⟩ | hrun | ⟨row, hrun⟩
      · obtain ⟨settled, payment, -, hpayment, hrun⟩ := postVerification_of_confirms h
        rw [hrun]
        intro o' ho'
        rcases Table.mem_insertOrReplace.1 ho' with rfl | ⟨ho', -⟩
        · exact ⟨payment, Table.mem_insertOrReplace.2 (.inl rfl), hpayment⟩
        · exact hsaved payment o' ho'
      · rw [hrun]
        exact hrecorded
      · rw [hrun]
        exact hsaved row

/-! ### Runs of requests -/

theorem Store.after_append (steps rest : List (Moment × Request)) :
    s.after runtime (steps ++ rest) = (s.after runtime steps).after runtime rest :=
  List.foldl_append

theorem after_recorded {steps : List (Moment × Request)} (hrecorded : Recorded s) :
    Recorded (s.after runtime steps) := by
  induction steps generalizing s with
  | nil => exact hrecorded
  | cons step rest ih => exact ih (run_recorded hrecorded)

theorem carefulRun_nil : CarefulRun runtime s [] := by
  intro earlier step later h
  simp at h

theorem carefulRun_cons {step : Moment × Request} {rest : List (Moment × Request)} :
    CarefulRun runtime s (step :: rest) ↔ step.2.Careful runtime step.1 s ∧
      CarefulRun runtime (step.2.run runtime step.1 s) rest := by
  constructor
  · intro h
    exact ⟨h [] step rest rfl, fun earlier step' later heq =>
      h (step :: earlier) step' later (congrArg (step :: ·) heq)⟩
  · rintro ⟨hstep, hrest⟩ earlier step' later heq
    cases earlier with
    | nil =>
        obtain ⟨rfl, -⟩ := List.cons.inj heq
        exact hstep
    | cons first earlier =>
        obtain ⟨rfl, hrun⟩ := List.cons.inj heq
        exact hrest earlier step' later hrun

theorem sound_of_no_orders (hnone : ∀ o, o ∉ s.orders) : Sound s :=
  ⟨fun o ho => absurd ho (hnone o), fun o ho => absurd ho (hnone o),
    fun o ho => absurd ho (hnone o)⟩

/-- Careful requests confirm once. -/
theorem CarefulRun.confirmsOnce (hproduction : runtime.Production)
    (hids : ∀ o p, issued o p → ProviderId o ∧ ProviderId p) {steps : List (Moment × Request)}
    (hunforged : ∀ step ∈ steps, step.2.Unforged runtime issued) (hsound : Sound s)
    (hrecorded : Recorded s) (hcareful : CarefulRun runtime s steps) :
    ConfirmsOnce runtime s steps := by
  induction steps generalizing s with
  | nil =>
      intro earlier between later h
      obtain ⟨h, -⟩ := List.append_eq_nil_iff.1 h.symm
      obtain ⟨rfl, rfl⟩ := List.append_eq_nil_iff.1 h
      exact ⟨hsound, fun o ho => ho⟩
  | cons step rest ih =>
      obtain ⟨hstep, hrest⟩ := carefulRun_cons.1 hcareful
      obtain ⟨hsound₁, hkeeps₁⟩ := (run_sound_iff hproduction hids
        (hunforged step List.mem_cons_self) hsound hrecorded).2 hstep
      have hlater := ih (fun step' h => hunforged step' (List.mem_cons_of_mem _ h)) hsound₁
        (run_recorded hrecorded) hrest
      intro earlier between later h
      cases earlier with
      | cons first earlier =>
          obtain ⟨rfl, hrun⟩ := List.cons.inj h
          exact hlater earlier between later hrun
      | nil =>
          cases between with
          | nil => exact ⟨hsound, fun o ho => ho⟩
          | cons first between =>
              obtain ⟨rfl, hbetween⟩ := List.cons.inj h
              obtain ⟨hsound', hkeeps'⟩ := hlater [] between later hbetween
              exact ⟨hsound', fun o ho => hkeeps' o (hkeeps₁ o ho)⟩

/-- **Requests confirm once and at the frozen amount exactly when each of them is careful**:
over any sequence of checkouts and verifications, with production settings, a key secret and
signatures of the provider alone. -/
theorem confirmsOnce_iff (hproduction : runtime.Production)
    (hids : ∀ o p, issued o p → ProviderId o ∧ ProviderId p) {steps : List (Moment × Request)}
    (hunforged : ∀ step ∈ steps, step.2.Unforged runtime issued) (hsound : Sound s)
    (hrecorded : Recorded s) : ConfirmsOnce runtime s steps ↔ CarefulRun runtime s steps := by
  refine ⟨fun honce earlier step later h => ?_,
    CarefulRun.confirmsOnce hproduction hids hunforged hsound hrecorded⟩
  have hbefore := (honce earlier [] (step :: later) (by simpa using h)).1
  have hstep := honce earlier [step] later (by simpa using h)
  rw [List.append_nil] at hbefore
  rw [Store.after_append earlier [step]] at hstep
  exact (run_sound_iff hproduction hids (hunforged step (by simp [h])) hbefore
    (after_recorded hrecorded)).1 hstep

end

/-! ### A shop with two carts -/

/-- Production settings, with the keyed hashes of the two messages that get signed. -/
def shop : Runtime where
  nodeEnv := some "production"
  razorpayKeyId := some "key_id"
  razorpayKeySecret := some "key_secret"
  hmac _ message :=
    if message = "order_1|pay_1" then
      "dd0f51ec9e75790ad1f7cc8e1a83d12f0a58a9641601a3cffa5c695972543c82"
    else if message = "order_2|pay_2" then
      "cba9be0eb0518b5300b80dd08b25df0facf32fb52f004414615cc2f595f6def6"
    else ""
  template _ := ""
  integerOf value := match value with
    | .int n => some n
    | _ => none
  numeral _ := ""

/-- A moment of the shop, with an identifier and an order number of its own. -/
def moment (tag : String) : Moment where
  orderNumber := "ORD-" ++ tag
  stamped kind := kind ++ "_" ++ tag
  minted kind := kind ++ "_" ++ tag

/-- A cart of one offer at a price. -/
def cart (price : ℤ) : Request :=
  .checkout (fun _ => some price) { offerId := .str "off_1", quantity := .int 1 }

/-- The first payment, for the first cart. -/
def firstPayment : Request :=
  .verification
    { razorpayOrderId := .str "order_1"
      razorpayPaymentId := .str "pay_1"
      razorpaySignature := .str (shop.hmac "key_secret" "order_1|pay_1")
      confirmedOrderId := .str "ord_1"
      checkoutId := .str "chk_1" }

/-- The second payment, for the second cart, under an order identifier of the caller. -/
def secondPayment (orderId : String) : Request :=
  .verification
    { razorpayOrderId := .str "order_2"
      razorpayPaymentId := .str "pay_2"
      razorpaySignature := .str (shop.hmac "key_secret" "order_2|pay_2")
      confirmedOrderId := .str orderId
      checkoutId := .str "chk_2" }

/-- Two carts, paid one after the other. -/
def purchases (orderId : String) : List (Moment × Request) :=
  [(moment "1", cart 100), (moment "2", cart 200), (moment "3", firstPayment),
    (moment "4", secondPayment orderId)]

theorem shop_production : shop.Production := ⟨by decide, by decide⟩

/-- What the provider signed: the two payments. -/
def signedByProvider (orderId paymentId : String) : Prop :=
  orderId = "order_1" ∧ paymentId = "pay_1" ∨ orderId = "order_2" ∧ paymentId = "pay_2"

theorem providerId_of_signed (o p : String) (h : signedByProvider o p) :
    ProviderId o ∧ ProviderId p := by
  rcases h with ⟨rfl, rfl⟩ | ⟨rfl, rfl⟩
  · exact ⟨⟨by decide, by decide, by decide⟩, ⟨by decide, by decide, by decide⟩⟩
  · exact ⟨⟨by decide, by decide, by decide⟩, ⟨by decide, by decide, by decide⟩⟩

/-- Only what the provider signed has a hash. -/
theorem signed_of_hmac_ne {secret message : String} (h : shop.hmac secret message ≠ "") :
    ∃ o p, signedByProvider o p ∧ message = o ++ "|" ++ p := by
  simp only [shop] at h
  split_ifs at h with hfirst hsecond
  · exact ⟨"order_1", "pay_1", .inl ⟨rfl, rfl⟩, hfirst⟩
  · exact ⟨"order_2", "pay_2", .inr ⟨rfl, rfl⟩, hsecond⟩
  · exact absurd rfl h

theorem purchases_unforged (orderId : String) :
    ∀ step ∈ purchases orderId, step.2.Unforged shop signedByProvider := by
  intro step hstep
  simp only [purchases, List.mem_cons, List.not_mem_nil, or_false] at hstep
  rcases hstep with rfl | rfl | rfl | rfl
  · trivial
  · trivial
  · intro secret _ message h
    refine @signed_of_hmac_ne secret message ?_
    rw [← Json.str.inj h]
    decide
  · intro secret _ message h
    refine @signed_of_hmac_ne secret message ?_
    rw [← Json.str.inj h]
    decide

/-- Under an identifier of its own the second order leaves the first as it is. -/
theorem confirmsOnce_purchases : ConfirmsOnce shop {} (purchases "ord_2") := by
  refine (confirmsOnce_iff shop_production providerId_of_signed (purchases_unforged "ord_2")
    (sound_of_no_orders Table.not_mem_empty) fun o ho => absurd ho (Table.not_mem_empty o)).2 ?_
  refine carefulRun_cons.2 ⟨?_, carefulRun_cons.2 ⟨?_, carefulRun_cons.2 ⟨?_,
    carefulRun_cons.2 ⟨?_, carefulRun_nil⟩⟩⟩⟩
  · intro _ _ o ho
    exact absurd ho (Table.not_mem_empty o)
  · intro _ _ o ho
    exact absurd ho (Table.not_mem_empty o)
  · intro p c m o h
    obtain rfl : "chk_1" = c := Option.some.inj h.checkout
    obtain rfl : "INR" = m := Option.some.inj h.money
    obtain rfl : "ord_1" = o := Option.some.inj h.order
    exact ⟨⟨⟨"chk_1", 100, "INR"⟩, Table.mem_def.2 (by decide), by decide, by decide,
      .inl ⟨"chk_1", rfl, by decide⟩⟩, fun o ho => absurd ho (Table.not_mem_empty o),
      fun o ho => absurd ho (Table.not_mem_empty o), fun o ho => absurd ho (Table.not_mem_empty o)⟩
  · intro p c m o h
    obtain rfl : "chk_2" = c := Option.some.inj h.checkout
    obtain rfl : "INR" = m := Option.some.inj h.money
    obtain rfl : "ord_2" = o := Option.some.inj h.order
    refine ⟨⟨⟨"chk_2", 200, "INR"⟩, Table.mem_def.2 (by decide), by decide, by decide,
      .inl ⟨"chk_2", rfl, by decide⟩⟩, ?_, ?_, ?_⟩
    all_goals
      intro o ho
      obtain rfl : o = confirmedRow (moment "3") "pay_1" "chk_1" "INR" "ord_1" 100 :=
        List.mem_singleton.1 ho
      decide

/-- The second order takes the identifier of the first, which is gone. -/
theorem second_purchase_replaces_first :
    shop.Production ∧ (∀ step ∈ purchases "ord_1", step.2.Unforged shop signedByProvider) ∧
      ¬ConfirmsOnce shop {} (purchases "ord_1") := by
  refine ⟨shop_production, purchases_unforged "ord_1", fun honce => ?_⟩
  obtain ⟨-, hkeeps⟩ :=
    honce ((purchases "ord_1").take 3) ((purchases "ord_1").drop 3) [] (by simp)
  have hafter : (Store.after shop {} (purchases "ord_1")).orders.rows =
      [confirmedRow (moment "4") "pay_2" "chk_2" "INR" "ord_1" 200] := by decide
  have hfirst : confirmedRow (moment "3") "pay_1" "chk_1" "INR" "ord_1" 100 ∈
      (Store.after shop {} ((purchases "ord_1").take 3)).orders := by
    show _ ∈ (Store.after shop {} ((purchases "ord_1").take 3)).orders.rows
    decide
  have := hkeeps _ hfirst
  rw [List.take_append_drop] at this
  rw [Table.mem_def, hafter] at this
  revert this
  decide

end Web
end AgenticCommerce
