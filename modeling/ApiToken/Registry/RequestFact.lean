import ApiToken.Lib.Fallible

/-!
# Request facts

The bounded observability record of one billed request
(`request_facts.rs`): what admission stores, what the terminal evidence
must satisfy, and the billing outcome written at settlement. The
settlement path reads these rows only to validate and to compare, so a
replay of a settlement succeeds only if the comparison still does.
-/

namespace ApiToken.Registry

/-- What an engine transaction can fail with: a `bail!` carrying its
text, or a PostgreSQL error carrying its SQLSTATE. -/
inductive Error where
  | bail (message : String)
  | sql (state : String)
deriving DecidableEq

/-- `bail!(message)` when `bad`. -/
def bailIf (bad : Bool) (message : String) : Except Error Unit :=
  failIf bad (.bail message)

@[simp] theorem bailIf_eq_ok {bad : Bool} {message : String} {u : Unit} :
    bailIf bad message = .ok u ↔ bad = false :=
  failIf_eq_ok

inductive ClientKind where
  | claudeCode | openCode | codexCli | cursor | sdk | custom | unknown
deriving DecidableEq

inductive ClientSource where
  | explicit | heuristic | unknown
deriving DecidableEq

inductive ToolChoiceMode where
  | auto | required | none | named | unknown
deriving DecidableEq

inductive ProviderTerminalClass where
  | success | clientError | quota | auth | timeout | transport
  | upstreamError | protocolError | unknown
deriving DecidableEq

inductive DeliveryState where
  | notStarted | started | completed | interrupted | unknown
deriving DecidableEq

inductive BillingOutcome where
  | winner | loser | zeroMetered | canceled | reconciled | notApplicable
  | unknown
deriving DecidableEq

structure RequestFactAdmission where
  logicalRequestId : String
  billingRequestId : String
  executionGroupId : Option String
  attempt : Int
  accountId : String
  keyId : String
  clientKind : ClientKind
  clientSource : ClientSource
  clientVersion : Option String
  providerPlane : String
  routeClass : String
  requestClass : String
  requestedModel : Option String
  executableModel : Option String
  streamFlag : Bool
  toolsDeclaredCount : Option Int
  toolClasses : Option Int
  toolChoiceMode : Option ToolChoiceMode
  parallelToolsRequested : Option Bool
  toolResultsInInput : Option Bool
  structuredOutputFlag : Option Bool
  reasoningFlag : Option Bool
  serviceTier : Option String
  inputModalities : Option Int
  outputModalities : Option Int
  admittedAt : Int
deriving DecidableEq

structure RequestFactTerminalEvidence where
  terminalAt : Int
  httpStatusCode : Option Int
  providerTerminalClass : ProviderTerminalClass
  deliveryState : DeliveryState
  downstreamDisconnect : Option Bool
  upstreamRequestId : Option String
  firstPublicByteAt : Option Int
  internalAttemptCount : Option Int
  failureClass : Option String
  toolCallsInOutput : Option Bool
deriving DecidableEq

/-- A stored `request_facts` row: the admission, the first delivery
instant and, once settled, the evidence with its billing outcome. -/
structure RequestFact where
  admission : RequestFactAdmission
  deliveryStartedAt : Option Int
  terminal : Option (RequestFactTerminalEvidence × BillingOutcome)
deriving DecidableEq

/-! ## Validation -/

def isLowerHex (c : Char) : Bool :=
  ('0' ≤ c && c ≤ '9') || ('a' ≤ c && c ≤ 'f')

/-- `is_canonical_uuid_v4`: 36 bytes, dashes at 8, 13, 18 and 23, version
nibble `4`, variant nibble `8`, `9`, `a` or `b`, lowercase hex elsewhere. -/
def isCanonicalUuidV4 (value : String) : Bool :=
  let cs := value.toList
  cs.length == 36 &&
    cs.zipIdx.all (fun (c, i) =>
      if i == 8 || i == 13 || i == 18 || i == 23 then c == '-'
      else if i == 14 then c == '4'
      else if i == 19 then c == '8' || c == '9' || c == 'a' || c == 'b'
      else isLowerHex c)

/-- `validate_bounded_ascii` with `allow_empty = false`. -/
def validateBoundedAscii (value label : String) (maxLen : Nat) :
    Except Error Unit := do
  bailIf (value.isEmpty || maxLen < value.utf8ByteSize) (label ++ " has an invalid length")
  bailIf (value.toList.any (fun c => c.toNat ≥ 127 || c.toNat < 32))
    (label ++ " must be bounded printable ASCII on one line")

def validateOptionalAscii (value : Option String) (label : String)
    (maxLen : Nat) : Except Error Unit :=
  match value with
  | none => .ok ()
  | some v => validateBoundedAscii v label maxLen

def toolClassMask : Int := 127

def modalityMask : Int := 31

def withinMask (mask : Int) (value : Option Int) : Bool :=
  match value with
  | none => true
  | some v => 0 ≤ v && v ≤ mask

def RequestFactAdmission.validate (f : RequestFactAdmission) :
    Except Error Unit := do
  bailIf (!isCanonicalUuidV4 f.logicalRequestId
      || !isCanonicalUuidV4 f.billingRequestId
      || f.executionGroupId.any (fun v => !isCanonicalUuidV4 v))
    "request-fact identities must be canonical lowercase UUIDv4"
  bailIf (f.attempt ≤ 0 || f.admittedAt < 0)
    "request-fact attempt and admission time must be nonnegative/positive"
  validateBoundedAscii f.accountId "request-fact account id" 128
  validateBoundedAscii f.keyId "request-fact key id" 128
  validateOptionalAscii f.clientVersion "request-fact client version" 64
  validateBoundedAscii f.providerPlane "request-fact provider plane" 64
  validateBoundedAscii f.routeClass "request-fact route class" 64
  validateBoundedAscii f.requestClass "request-fact request class" 64
  validateOptionalAscii f.requestedModel "request-fact requested model" 256
  validateOptionalAscii f.executableModel "request-fact executable model" 256
  validateOptionalAscii f.serviceTier "request-fact service tier" 64
  bailIf (f.toolsDeclaredCount.any (· < 0)) "request-fact tool count must be nonnegative"
  bailIf (!withinMask toolClassMask f.toolClasses)
    "request-fact tool bitset contains unknown bits"
  bailIf (!withinMask modalityMask f.inputModalities)
    "request-fact input modality bitset contains unknown bits"
  bailIf (!withinMask modalityMask f.outputModalities)
    "request-fact output modality bitset contains unknown bits"

/-- `validate_reservation_fact`: the fact names the reservation it rides on. -/
def validateReservationFact (fact : RequestFactAdmission)
    (requestId accountId keyId : String) (executionGroupId : Option String)
    (attempt : Int) : Except Error Unit := do
  fact.validate
  bailIf (fact.billingRequestId != requestId || fact.accountId != accountId
      || fact.keyId != keyId || fact.executionGroupId != executionGroupId
      || fact.attempt != attempt)
    "request-fact admission conflicts with reservation identity"

/-- `validate_with_delivery`: the terminal evidence fits the lifecycle
that starts at `admittedAt` and delivers from `deliveryStartedAt`. -/
def RequestFactTerminalEvidence.validateWithDelivery
    (e : RequestFactTerminalEvidence) (admittedAt : Int)
    (deliveryStartedAt : Option Int) : Except Error Unit := do
  bailIf (admittedAt < 0 || e.terminalAt < 0 || e.terminalAt < admittedAt)
    "request-fact terminal time precedes admission"
  bailIf (deliveryStartedAt.any (fun v => v < admittedAt || e.terminalAt < v))
    "request-fact delivery time is outside the lifecycle"
  bailIf (e.httpStatusCode.any (fun v => v < 100 || 599 < v))
    "request-fact HTTP status is outside 100..599"
  bailIf (e.firstPublicByteAt.any (fun v => v < admittedAt || e.terminalAt < v
      || deliveryStartedAt.any (fun d => v < d)))
    "request-fact first-public-byte time is outside the lifecycle"
  bailIf (e.internalAttemptCount.any (· < 0))
    "request-fact internal attempt count must be nonnegative"
  validateOptionalAscii e.upstreamRequestId "request-fact upstream request id" 256
  validateOptionalAscii e.failureClass "request-fact failure class" 128

/-! ## Validity does not depend on a fact that retention removed -/

/-- Evidence accepted against a stored fact is accepted again once the
fact is gone: the settlement path then validates against `(0, none)`. -/
theorem validateWithDelivery_forget {e : RequestFactTerminalEvidence}
    {admittedAt : Int} {deliveryStartedAt : Option Int}
    (h : e.validateWithDelivery admittedAt deliveryStartedAt = .ok ()) :
    e.validateWithDelivery 0 none = .ok () := by
  simp only [RequestFactTerminalEvidence.validateWithDelivery, bind_eq_ok,
    bailIf_eq_ok, exists_and_left, exists_const] at h ⊢
  obtain ⟨hterm, -, hhttp, hbyte, hatt, htail⟩ := h
  simp only [guard_iffs, Int.not_lt] at hterm
  refine ⟨by simp [hterm], by simp, hhttp, ?_, hatt, htail⟩
  cases hb : e.firstPublicByteAt with
  | none => rfl
  | some =>
    simp only [hb, any_some, guard_iffs, Int.not_lt] at hbyte ⊢
    simp only [Option.any_none, and_true]
    omega

end ApiToken.Registry
