import ApiToken.Lib.Fallible
import ApiToken.Lib.Table

/-!
# Pricing edits

What commerce wants a customer to be charged: one default multiplier on the
customer's profile and, where the terms differ, one override for each
provider. An edit writes the wanted value and queues its delivery to the
engine in the same transaction: one job row for each target, rewritten by
every edit unless a worker is delivering it at that moment.

Timestamps are in microseconds.
-/

namespace ApiToken.PricingJobs

variable {db db₁ db₂ db' : Commerce} {t : Target} {now : Int} {account : String}
  {bp : Option Int} {profile : Profile}

/-! ## Tables -/

inductive CustomerType where
  | b2c
  | b2b
deriving DecidableEq

structure Profile where
  customerType : CustomerType
  multiplierBp : Int

/-- What one job delivers: the default of a user, or one provider's override. -/
structure Target where
  userId : String
  /-- The account default has no provider. -/
  providerId : Option String
deriving DecidableEq

inductive JobStatus where
  | pending
  | processing
  | retry
  | confirmed
deriving DecidableEq

/-- A row of `engine_pricing_jobs`. -/
structure PricingJob where
  engineAccountId : String
  /-- Null removes a provider's override. -/
  multiplierBp : Option Int
  status : JobStatus
  attempts : Nat
  nextAttemptAt : Int
  lockedAt : Option Int
  lockedBy : Option String
  createdAt : Int

/-- What `applySalesPartnerBusinessPricing` hashes into its request digest. -/
structure CanonicalRequest where
  userId : String
  referralCode : String
  ceilingPercent : Int
  discountPercent : Option Int
  providers : List (String × Option Int)
  actorId : String
  reason : String
deriving DecidableEq

structure Commerce where
  profiles : Table String Profile
  /-- `engine_accounts`: the engine's id is null until it is provisioned. -/
  accounts : Table String (Option String)
  /-- `customer_provider_discounts`. -/
  discounts : Table (String × String) Int
  /-- `referral_attributions`. -/
  attributions : Table String String
  /-- The `pricing.sales_partner_operation` rows of the audit log. -/
  operations : Table String CanonicalRequest
  /-- `engine_pricing_jobs`, unique for each user and provider. -/
  jobs : Table Target PricingJob

inductive EditError where
  | empty (message : String)
  | businessCustomerNotFound (message : String)
  | customerProfileNotFound (message : String)
  | partnerRequest (message : String)
  | partnerAuthorization (message : String)
  | partnerConflict (message : String)
  | customerDiscount (code message : String)
  /-- A `CHECK` of the schema. -/
  | check (constraint : String)

def Commerce.engineAccount (db : Commerce) (userId : String) : Option String :=
  (db.accounts.find? userId).join

def Commerce.wanted (db : Commerce) (t : Target) : Option Int :=
  match t.providerId with
  | none => (db.profiles.find? t.userId).map (·.multiplierBp)
  | some providerId => db.discounts.find? (t.userId, providerId)

/-! ## Queueing a delivery -/

def enqueuePricingJob (db : Commerce) (now : Int) (t : Target)
    (engineAccountId : String) (multiplierBp : Option Int) : Commerce :=
  match db.jobs.find? t with
  | some row =>
    if row.status = .processing then db
    else { db with jobs := db.jobs.put t { row with
      engineAccountId, multiplierBp, status := .pending, attempts := 0,
      nextAttemptAt := now, lockedAt := none, lockedBy := none } }
  | none =>
    { db with jobs := db.jobs.put t {
      engineAccountId, multiplierBp, status := .pending, attempts := 0,
      nextAttemptAt := now, lockedAt := none, lockedBy := none,
      createdAt := now } }

/-- `BETWEEN 0 AND 10000`. -/
def multiplierInRange (multiplierBp : Int) : Bool :=
  0 ≤ multiplierBp && multiplierBp ≤ 10000

/-- The profile's new multiplier, past its `CHECK`. -/
def setMultiplier (db : Commerce) (userId : String) (profile : Profile)
    (multiplierBp : Int) : Except EditError Commerce := do
  failIf (!multiplierInRange multiplierBp) (.check "customer_profiles_multiplier_check")
  return { db with profiles := db.profiles.put userId { profile with multiplierBp } }

def applyBusinessDefaultTx (db : Commerce) (now : Int) (userId : String)
    (profile : Profile) (engineAccountId : String) (multiplierBp : Int) :
    Except EditError Commerce := do
  let db ← setMultiplier db userId profile multiplierBp
  return enqueuePricingJob db now ⟨userId, none⟩ engineAccountId (some multiplierBp)

def discountProviderIds : List String :=
  ["anthropic", "openai", "google", "kimi", "glm"]

def isDiscountProviderId (value : String) : Bool := discountProviderIds.contains value

/-- The two checks that `applyProviderDiscountTx` and
`setCustomerProviderDiscount` both make. -/
def checkProviderDiscount (providerId : String) (multiplierBp : Option Int) :
    Except EditError Unit := do
  failIf (!isDiscountProviderId providerId)
    (.customerDiscount "invalid_provider" ("unknown provider id: " ++ providerId))
  failIf (multiplierBp.any (fun bp => !multiplierInRange bp))
    (.customerDiscount "invalid_multiplier"
      "multiplier_bp must be an integer between 0 and 10000")

def setDiscount (db : Commerce) (userId providerId : String) :
    Option Int → Commerce
  | none => { db with
      discounts := db.discounts.delete (fun key _ => key = (userId, providerId)) }
  | some bp => { db with discounts := db.discounts.put (userId, providerId) bp }

def applyProviderDiscountTx (db : Commerce) (now : Int)
    (userId engineAccountId providerId : String) (multiplierBp : Option Int) :
    Except EditError Commerce := do
  checkProviderDiscount providerId multiplierBp
  return enqueuePricingJob (setDiscount db userId providerId multiplierBp) now
    ⟨userId, some providerId⟩ engineAccountId multiplierBp

def applyProviderDiscounts (db : Commerce) (now : Int)
    (userId engineAccountId : String) (providers : List (String × Option Int)) :
    Except EditError Commerce :=
  providers.foldlM (fun db entry =>
    applyProviderDiscountTx db now userId engineAccountId entry.1 entry.2) db

/-! ## The four edits -/

def setCustomerProviderDiscount (db : Commerce) (now : Int)
    (userId providerId : String) (multiplierBp : Option Int) :
    Except EditError Commerce := do
  checkProviderDiscount providerId multiplierBp
  let engineAccountId ← orFail (db.engineAccount userId)
    (.customerDiscount "unknown_customer" "customer has no engine account")
  applyProviderDiscountTx db now userId engineAccountId providerId multiplierBp

def applyDefaultIfGiven (db : Commerce) (now : Int) (userId : String)
    (profile : Profile) (engineAccountId : String) :
    Option Int → Except EditError Commerce
  | some multiplierBp =>
    applyBusinessDefaultTx db now userId profile engineAccountId multiplierBp
  | none => .ok db

def setBusinessPricingBundle (db : Commerce) (now : Int) (userId : String)
    (multiplierBp : Option Int) (providers : List (String × Option Int)) :
    Except EditError Commerce := do
  failIf (multiplierBp.isNone && providers.isEmpty) (.empty "business pricing mutation is empty")
  let notFound := EditError.businessCustomerNotFound "business customer not found"
  let profile ← orFail (db.profiles.find? userId) notFound
  failIf (profile.customerType != .b2b) notFound
  let engineAccountId ← orFail (db.engineAccount userId) notFound
  let db ← applyDefaultIfGiven db now userId profile engineAccountId multiplierBp
  applyProviderDiscounts db now userId engineAccountId providers

/-- The conversion both `convertCustomerToBusiness` and
`applySalesPartnerBusinessPricing` make: the class, the negotiated
multiplier and its delivery. -/
def convertToBusiness (db : Commerce) (now : Int) (userId : String)
    (profile : Profile) (engineAccountId : String) (multiplierBp : Int) :
    Except EditError Commerce :=
  applyBusinessDefaultTx db now userId { profile with customerType := .b2b }
    engineAccountId multiplierBp

def convertUnlessBusiness (db : Commerce) (now : Int) (userId : String)
    (profile : Profile) (engineAccountId : String) (multiplierBp : Int) :
    Except EditError Commerce :=
  match profile.customerType with
  | .b2b => .ok db
  | .b2c => convertToBusiness db now userId profile engineAccountId multiplierBp

def convertCustomerToBusiness (db : Commerce) (now : Int) (userId : String)
    (multiplierBp : Int) : Except EditError Commerce := do
  let missing :=
    EditError.customerProfileNotFound "customer profile or engine account not found"
  let profile ← orFail (db.profiles.find? userId) missing
  let account ← orFail (db.accounts.find? userId) missing
  let engineAccountId ← orFail account
    (.businessCustomerNotFound "customer engine account is not provisioned")
  convertUnlessBusiness db now userId profile engineAccountId multiplierBp

/-! ## The partner's edit -/

structure PartnerPricingInput where
  operationRef : Option String
  userId : String
  referralCode : String
  ceilingPercent : Int
  discountPercent : Option Int
  providers : List (String × Option Int)
  actorId : Option String
  reason : Option String

/-- White space and line terminators of `String.prototype.trim`. -/
def isJsSpace (c : Char) : Bool :=
  [0x9, 0xA, 0xB, 0xC, 0xD, 0x20, 0xA0, 0x1680, 0x2028, 0x2029, 0x202F, 0x205F,
    0x3000, 0xFEFF].contains c.toNat || (0x2000 ≤ c.toNat && c.toNat ≤ 0x200A)

/-- `s.trim()`. -/
def jsTrim (s : String) : String :=
  String.ofList (((s.toList.dropWhile isJsSpace).reverse.dropWhile isJsSpace).reverse)

/-- `s.length`, in UTF-16 units. -/
def jsLength (s : String) : Nat :=
  (s.toList.map (fun c => if c.toNat < 0x10000 then 1 else 2)).sum

/-- `value?.trim() || fallback`. -/
def trimmedOr (value : Option String) (fallback : String) : String :=
  match value.map jsTrim with
  | none => fallback
  | some s => if s = "" then fallback else s

def percentInRange (percent : Int) : Bool := 0 ≤ percent && percent ≤ 95

/-- `Object.entries(…).sort(…)`. -/
def sortEntries (providers : List (String × Option Int)) : List (String × Option Int) :=
  providers.insertionSort (fun a b => a.1 ≤ b.1)

def checkProviderPercent (entry : String × Option Int) : Except EditError Unit := do
  failIf (!isDiscountProviderId entry.1) (.partnerRequest ("unknown provider id: " ++ entry.1))
  failIf (entry.2.any (fun percent => !percentInRange percent))
    (.partnerRequest ("invalid discount percent for provider " ++ entry.1))

def PartnerPricingInput.canonical (input : PartnerPricingInput) : CanonicalRequest where
  userId := input.userId
  referralCode := input.referralCode
  ceilingPercent := input.ceilingPercent
  discountPercent := input.discountPercent
  providers := sortEntries input.providers
  actorId := trimmedOr input.actorId "sales-partner"
  reason := trimmedOr input.reason "partner b2b pricing"

def checkPartnerRequest (operationRef : String) (request : CanonicalRequest) :
    Except EditError Unit := do
  failIf (jsLength operationRef < 8 || 200 < jsLength operationRef)
    (.partnerRequest "operation ref must contain between 8 and 200 characters")
  failIf (jsLength request.actorId < 1 || 200 < jsLength request.actorId)
    (.partnerRequest "actor id must contain between 1 and 200 characters")
  failIf (jsLength request.reason < 1 || 4000 < jsLength request.reason)
    (.partnerRequest "reason must contain between 1 and 4000 characters")
  failIf (!percentInRange request.ceilingPercent)
    (.partnerRequest "ceiling percent must be an integer between 0 and 95")
  failIf (request.discountPercent.any (fun percent => !percentInRange percent))
    (.partnerRequest "discount percent must be an integer between 0 and 95")
  request.providers.forM checkProviderPercent
  failIf (request.discountPercent.isNone && request.providers.isEmpty)
    (.partnerRequest "business pricing mutation is empty")
  failIf ((request.discountPercent.toList ++ request.providers.filterMap (·.2)).any
      (fun percent => request.ceilingPercent < percent))
    (.partnerAuthorization "requested discount exceeds the partner ceiling")

/-- `10_000 - percent * 100`. -/
def multiplierOf (percent : Int) : Int := 10000 - percent * 100

def applyPartnerDefault (db : Commerce) (now : Int) (userId : String)
    (profile : Profile) (engineAccountId : String) (discountPercent : Option Int) :
    Except EditError Commerce :=
  match profile.customerType, discountPercent with
  | .b2c, none => .error (.partnerRequest
      "converting a referral to B2B requires the default discount")
  | .b2c, some percent =>
    convertToBusiness db now userId profile engineAccountId (multiplierOf percent)
  | .b2b, percent =>
    applyDefaultIfGiven db now userId profile engineAccountId (percent.map multiplierOf)

def applyPartnerRequest (db : Commerce) (now : Int) (operationRef : String)
    (request : CanonicalRequest) : Except EditError Commerce := do
  failIf (db.attributions.find? request.userId != some request.referralCode)
    (.partnerAuthorization "this customer is not attributed to the calling partner")
  let missing := EditError.businessCustomerNotFound
    "referral has no provisioned business account yet"
  let profile ← orFail (db.profiles.find? request.userId) missing
  let engineAccountId ← orFail (db.engineAccount request.userId) missing
  let db ← applyPartnerDefault db now request.userId profile engineAccountId
    request.discountPercent
  let db ← applyProviderDiscounts db now request.userId engineAccountId
    (request.providers.map (fun entry => (entry.1, entry.2.map multiplierOf)))
  return { db with operations := db.operations.put operationRef request }

def replayOrApply (db : Commerce) (now : Int) (operationRef : String)
    (request : CanonicalRequest) : Except EditError Commerce :=
  match db.operations.find? operationRef with
  | some stored =>
    if stored = request then .ok db
    else .error (.partnerConflict "operation ref was already used for another pricing request")
  | none => applyPartnerRequest db now operationRef request

/-- `applySalesPartnerBusinessPricing`; `legacyRef` is the random ref made up
for a request without one. -/
def applySalesPartnerBusinessPricing (db : Commerce) (now : Int)
    (legacyRef : String) (input : PartnerPricingInput) : Except EditError Commerce := do
  let operationRef := trimmedOr input.operationRef legacyRef
  checkPartnerRequest operationRef input.canonical
  replayOrApply db now operationRef input.canonical

/-! ## Edits as one family -/

inductive Edit where
  | setBusinessPricingBundle (userId : String) (multiplierBp : Option Int)
      (providers : List (String × Option Int))
  | applySalesPartnerBusinessPricing (legacyRef : String) (input : PartnerPricingInput)
  | convertCustomerToBusiness (userId : String) (multiplierBp : Int)
  | setCustomerProviderDiscount (userId providerId : String) (multiplierBp : Option Int)

/-- The user whose `engine_accounts` row the edit locks. -/
def Edit.userId : Edit → String
  | .setBusinessPricingBundle userId _ _ => userId
  | .applySalesPartnerBusinessPricing _ input => input.userId
  | .convertCustomerToBusiness userId _ => userId
  | .setCustomerProviderDiscount userId _ _ => userId

/-- The transaction of the edit; `now` is the time it began. -/
def Edit.apply (db : Commerce) (now : Int) : Edit → Except EditError Commerce
  | .setBusinessPricingBundle userId multiplierBp providers =>
    PricingJobs.setBusinessPricingBundle db now userId multiplierBp providers
  | .applySalesPartnerBusinessPricing legacyRef input =>
    PricingJobs.applySalesPartnerBusinessPricing db now legacyRef input
  | .convertCustomerToBusiness userId multiplierBp =>
    PricingJobs.convertCustomerToBusiness db now userId multiplierBp
  | .setCustomerProviderDiscount userId providerId multiplierBp =>
    PricingJobs.setCustomerProviderDiscount db now userId providerId multiplierBp

/-! ## What an edit can do -/

/-- What an edit may do to the row of a target. -/
inductive TargetEdit (db db' : Commerce) (t : Target) : Prop where
  | same (jobs : db'.jobs.find? t = db.jobs.find? t)
      (wanted : db'.wanted t = db.wanted t)
  | busy (row : PricingJob) (before : db.jobs.find? t = some row)
      (after : db'.jobs.find? t = some row) (status : row.status = .processing)
  | queued (row' : PricingJob) (after : db'.jobs.find? t = some row')
      (status : row'.status = .pending)
      (account : db.engineAccount t.userId = some row'.engineAccountId)
      (idle : ∀ row, db.jobs.find? t = some row → row.status ≠ .processing)

structure Edited (userId : String) (db db' : Commerce) : Prop where
  accounts : db'.accounts = db.accounts
  targets : ∀ t, t.userId = userId → TargetEdit db db' t
  others : ∀ t, t.userId ≠ userId →
    db'.jobs.find? t = db.jobs.find? t ∧ db'.wanted t = db.wanted t

theorem Edited.refl (userId : String) (db : Commerce) : Edited userId db db where
  accounts := rfl
  targets := fun _ _ => .same rfl rfl
  others := fun _ _ => ⟨rfl, rfl⟩

theorem TargetEdit.trans (haccounts : db₁.accounts = db.accounts)
    (h : TargetEdit db db₁ t) (h' : TargetEdit db₁ db₂ t) : TargetEdit db db₂ t := by
  have hengine : db₁.engineAccount t.userId = db.engineAccount t.userId := by
    simp only [Commerce.engineAccount, haccounts]
  cases h with
  | same hjobs hwanted =>
    cases h' with
    | same hjobs' hwanted' => exact .same (hjobs'.trans hjobs) (hwanted'.trans hwanted)
    | busy row before after status => exact .busy row (hjobs ▸ before) after status
    | queued row' after status account idle =>
      exact .queued row' after status (hengine ▸ account) (hjobs ▸ idle)
  | busy row before after status =>
    cases h' with
    | same hjobs' => exact .busy row before (hjobs'.trans after) status
    | busy row1 before1 after1 =>
      obtain rfl : row = row1 := some.inj (after.symm.trans before1)
      exact .busy row before after1 status
    | queued _ _ _ _ idle => exact absurd status (idle row after)
  | queued row' after status account idle =>
    cases h' with
    | same hjobs' => exact .queued row' (hjobs'.trans after) status account idle
    | busy row1 before1 _ status1 =>
      obtain rfl : row' = row1 := some.inj (after.symm.trans before1)
      rw [status] at status1
      cases status1
    | queued row2 after2 status2 account2 =>
      exact .queued row2 after2 status2 (hengine ▸ account2) idle

variable {userId : String} {providers : List (String × Option Int)}

theorem Edited.trans (h : Edited userId db db₁) (h' : Edited userId db₁ db₂) :
    Edited userId db db₂ where
  accounts := h'.accounts.trans h.accounts
  targets := fun t ht => (h.targets t ht).trans h.accounts (h'.targets t ht)
  others := fun t ht =>
    ⟨(h'.others t ht).1.trans (h.others t ht).1, (h'.others t ht).2.trans (h.others t ht).2⟩

theorem enqueuePricingJob_jobs_ne (db : Commerce) (now : Int) {t' : Target}
    (account : String) (bp : Option Int) (h : t ≠ t') :
    (enqueuePricingJob db now t account bp).jobs.find? t' = db.jobs.find? t' := by
  unfold enqueuePricingJob
  cases db.jobs.find? t with
  | none => exact find?_put_ne _ _ h
  | some =>
    dsimp only
    split
    · rfl
    · exact find?_put_ne _ _ h

@[simp] theorem enqueuePricingJob_accounts (db : Commerce) (now : Int) (t : Target)
    (account : String) (bp : Option Int) :
    (enqueuePricingJob db now t account bp).accounts = db.accounts := by
  unfold enqueuePricingJob
  repeat' split
  all_goals rfl

@[simp] theorem enqueuePricingJob_wanted (db : Commerce) (now : Int) (t t' : Target)
    (account : String) (bp : Option Int) :
    (enqueuePricingJob db now t account bp).wanted t' = db.wanted t' := by
  unfold enqueuePricingJob
  repeat' split
  all_goals rfl

theorem enqueuePricingJob_self (db db0 : Commerce) (now : Int) (t : Target)
    (account : String) (bp : Option Int) (hjobs : db.jobs = db0.jobs)
    (haccount : db0.engineAccount t.userId = some account) :
    TargetEdit db0 (enqueuePricingJob db now t account bp) t := by
  unfold enqueuePricingJob
  rw [hjobs]
  cases hrow : db0.jobs.find? t with
  | none =>
    refine .queued _ (find?_put_self _ _ _) rfl haccount ?_
    intro row h
    rw [hrow] at h
    cases h
  | some row =>
    dsimp only
    split
    · rename_i hbusy
      refine .busy row hrow ?_ hbusy
      rw [hjobs, hrow]
    · rename_i hidle
      refine .queued _ (find?_put_self _ _ _) rfl haccount ?_
      intro row' h
      rw [hrow] at h
      cases h
      exact hidle

theorem edited_enqueue {db0 : Commerce} (hjobs : db.jobs = db0.jobs)
    (haccounts : db.accounts = db0.accounts)
    (hwanted : ∀ t', t ≠ t' → db.wanted t' = db0.wanted t')
    (haccount : db0.engineAccount t.userId = some account) :
    Edited t.userId db0 (enqueuePricingJob db now t account bp) := by
  have hne : ∀ t', t ≠ t' →
      (enqueuePricingJob db now t account bp).jobs.find? t' = db0.jobs.find? t' ∧
        (enqueuePricingJob db now t account bp).wanted t' = db0.wanted t' := by
    intro t' h
    rw [enqueuePricingJob_jobs_ne db now account bp h, enqueuePricingJob_wanted, hjobs]
    exact ⟨rfl, hwanted t' h⟩
  constructor
  · rw [enqueuePricingJob_accounts, haccounts]
  · intro t' _
    by_cases h : t = t'
    · subst h
      exact enqueuePricingJob_self db db0 now t account bp hjobs haccount
    · exact .same (hne t' h).1 (hne t' h).2
  · intro t' hu
    exact hne t' (fun h => hu (by rw [h]))

theorem applyBusinessDefaultTx_edited {bp : Int}
    (haccount : db.engineAccount userId = some account)
    (h : applyBusinessDefaultTx db now userId profile account bp = .ok db') :
    Edited userId db db' := by
  simp only [applyBusinessDefaultTx, setMultiplier, ok_steps] at h
  obtain ⟨db₁, ⟨-, rfl⟩, rfl⟩ := h
  refine edited_enqueue (t := ⟨userId, none⟩) rfl rfl ?_ haccount
  rintro ⟨user, provider⟩ hne
  cases provider with
  | some => rfl
  | none =>
    have hu : userId ≠ user := fun h => hne (by rw [h])
    simp only [Commerce.wanted, find?_put_ne _ _ hu]

theorem setDiscount_find (db : Commerce) (userId providerId : String)
    (bp : Option Int) {key : String × String} (h : (userId, providerId) ≠ key) :
    (setDiscount db userId providerId bp).discounts.find? key = db.discounts.find? key := by
  cases bp with
  | none =>
    have hkey : decide (key = (userId, providerId)) = false :=
      decide_eq_false (fun e => h e.symm)
    refine Option.ext (fun r => ?_)
    simp only [setDiscount, find?_delete, hkey, and_true]
  | some => exact find?_put_ne _ _ h

theorem applyProviderDiscountTx_edited {providerId : String}
    (haccount : db.engineAccount userId = some account)
    (h : applyProviderDiscountTx db now userId account providerId bp = .ok db') :
    Edited userId db db' := by
  simp only [applyProviderDiscountTx, ok_steps] at h
  obtain ⟨-, rfl⟩ := h
  have hframe : (setDiscount db userId providerId bp).jobs = db.jobs ∧
      (setDiscount db userId providerId bp).accounts = db.accounts ∧
      (setDiscount db userId providerId bp).profiles = db.profiles := by
    cases bp <;> exact ⟨rfl, rfl, rfl⟩
  refine edited_enqueue (t := ⟨userId, some providerId⟩) hframe.1 hframe.2.1 ?_ haccount
  rintro ⟨user, provider⟩ hne
  cases provider with
  | none => simp only [Commerce.wanted, hframe.2.2]
  | some =>
    refine setDiscount_find db userId providerId bp ?_
    intro h
    obtain ⟨rfl, rfl⟩ := Prod.mk.inj h
    exact hne rfl

theorem applyProviderDiscounts_edited (haccount : db.engineAccount userId = some account)
    (h : applyProviderDiscounts db now userId account providers = .ok db') :
    Edited userId db db' := by
  unfold applyProviderDiscounts at h
  induction providers generalizing db with
  | nil =>
    simp only [List.foldlM_nil, pure_eq_ok] at h
    rw [h]
    exact .refl userId db'
  | cons _ _ ih =>
    simp only [foldlM_cons, bind_eq_ok] at h
    obtain ⟨db₁, hfirst, hrest⟩ := h
    have h1 := applyProviderDiscountTx_edited haccount hfirst
    refine h1.trans (ih ?_ hrest)
    rw [Commerce.engineAccount, h1.accounts]
    exact haccount

theorem applyDefaultIfGiven_edited (haccount : db.engineAccount userId = some account)
    (h : applyDefaultIfGiven db now userId profile account bp = .ok db') :
    Edited userId db db' := by
  cases bp with
  | none =>
    cases h
    exact .refl userId db
  | some => exact applyBusinessDefaultTx_edited haccount h

theorem default_then_providers (haccount : db.engineAccount userId = some account)
    (h1 : Edited userId db db₁)
    (h : applyProviderDiscounts db₁ now userId account providers = .ok db') :
    Edited userId db db' := by
  refine h1.trans (applyProviderDiscounts_edited ?_ h)
  rw [Commerce.engineAccount, h1.accounts]
  exact haccount

theorem setBusinessPricingBundle_edited
    (h : setBusinessPricingBundle db now userId bp providers = .ok db') :
    Edited userId db db' := by
  simp only [setBusinessPricingBundle, ok_steps] at h
  obtain ⟨-, profile, -, -, account, haccount, db₁, hdefault, hrest⟩ := h
  exact default_then_providers haccount (applyDefaultIfGiven_edited haccount hdefault) hrest

theorem convertCustomerToBusiness_edited {bp : Int}
    (h : convertCustomerToBusiness db now userId bp = .ok db') : Edited userId db db' := by
  simp only [convertCustomerToBusiness, ok_steps] at h
  obtain ⟨profile, -, account?, hrow, account, rfl, hconvert⟩ := h
  have haccount : db.engineAccount userId = some account := by
    rw [Commerce.engineAccount, hrow]
    rfl
  unfold convertUnlessBusiness at hconvert
  split at hconvert
  · cases hconvert
    exact .refl userId db
  · exact applyBusinessDefaultTx_edited haccount hconvert

theorem setCustomerProviderDiscount_edited {providerId : String}
    (h : setCustomerProviderDiscount db now userId providerId bp = .ok db') :
    Edited userId db db' := by
  simp only [setCustomerProviderDiscount, ok_steps] at h
  obtain ⟨-, account, haccount, happly⟩ := h
  exact applyProviderDiscountTx_edited haccount happly

theorem applyPartnerDefault_edited {percent : Option Int}
    (haccount : db.engineAccount userId = some account)
    (h : applyPartnerDefault db now userId profile account percent = .ok db') :
    Edited userId db db' := by
  unfold applyPartnerDefault at h
  split at h
  · cases h
  · exact applyBusinessDefaultTx_edited haccount h
  · exact applyDefaultIfGiven_edited haccount h

theorem applyPartnerRequest_edited {operationRef : String} {request : CanonicalRequest}
    (h : applyPartnerRequest db now operationRef request = .ok db') :
    Edited request.userId db db' := by
  simp only [applyPartnerRequest, ok_steps] at h
  obtain ⟨-, profile, -, account, haccount, db₁, hdefault, db₂, hrest, rfl⟩ := h
  have h2 := default_then_providers haccount (applyPartnerDefault_edited haccount hdefault) hrest
  -- the operation row is none of the tables the relation looks at
  refine ⟨h2.accounts, fun t ht => ?_, h2.others⟩
  cases h2.targets t ht with
  | same jobs wanted => exact .same jobs wanted
  | busy row before after status => exact .busy row before after status
  | queued row' after status acc idle => exact .queued row' after status acc idle

theorem applySalesPartnerBusinessPricing_edited {legacyRef : String}
    {input : PartnerPricingInput}
    (h : applySalesPartnerBusinessPricing db now legacyRef input = .ok db') :
    Edited input.userId db db' := by
  simp only [applySalesPartnerBusinessPricing, ok_steps] at h
  obtain ⟨-, happly⟩ := h
  unfold replayOrApply at happly
  split at happly
  · split at happly
    · cases happly
      exact .refl _ db
    · cases happly
  · exact applyPartnerRequest_edited happly

theorem Edit.apply_edited {e : Edit} (h : e.apply db now = .ok db') : Edited e.userId db db' := by
  cases e with
  | setBusinessPricingBundle => exact setBusinessPricingBundle_edited h
  | applySalesPartnerBusinessPricing => exact applySalesPartnerBusinessPricing_edited h
  | convertCustomerToBusiness => exact convertCustomerToBusiness_edited h
  | setCustomerProviderDiscount => exact setCustomerProviderDiscount_edited h

end ApiToken.PricingJobs
