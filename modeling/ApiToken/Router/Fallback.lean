import ApiToken.Router.Plan

/-!
# Serial fallback

`proxy_attempt` of `router/src/proxy.rs` and the loop over the attempts of a
plan in `router/src/routing.rs`. A next attempt is sent only on a proof that
the last one did not run: a refused connection, or an answer that says so.
-/

namespace ApiToken.Router

open Meter (Value)

/-! ## One attempt -/

structure Header where
  name : String
  value : List UInt8

inductive ErrorSource where
  /-- `std::io::Error` of kind `ConnectionRefused`. -/
  | connectionRefused
  /-- Any other error. -/
  | other
deriving DecidableEq

/-- What an upstream does with an attempt: response headers (with whether
the router can build its own response of them), or a failure before them. -/
inductive Upstream (β : Type) where
  | response (status : Nat) (headers : List Header) (body : β) (builds : Bool)
  | failed (chain : List ErrorSource)

/-- What the client gets. -/
inductive Response (β : Type) where
  | refused (refusal : Refusal)
  | forwarded (status : Nat) (headers : List Header) (body : β)
  | upstreamUnavailable (message : String)

inductive RetryReason where
  | notStarted | connectionRefused

structure ProxyAttempt (β : Type) where
  response : Response β
  retryReason : Option RetryReason

def executionStateHeader : String := "x-apitoken-execution-state"

def logicalRequestIdHeader : String := "x-apitoken-logical-request-id"

def hopByHop : List String :=
  ["connection", "keep-alive", "proxy-authenticate", "proxy-authorization", "te",
    "trailer", "transfer-encoding", "upgrade"]

/-- `HeaderValue::to_str`: visible ASCII, blanks and tabs. -/
def headerText (value : List UInt8) : Option (List Char) :=
  if value.all (fun b => (32 ≤ b && b < 127) || b == 9) then
    some (value.map (fun b => Char.ofNat b.toNat))
  else none

/-- `str::split(',')`. -/
def splitCommas (s : List Char) : List (List Char) := s.splitOn ','

/-- The characters of a header name. -/
def isTokenChar (c : Char) : Bool :=
  c.isAlphanum || "!#$%&'*+-.^_`|~".toList.contains c

/-- `HeaderName::try_from`. -/
def headerName (s : List Char) : Option String :=
  if s ≠ [] ∧ s.all isTokenChar then some (String.ofList (s.map Char.toLower)) else none

/-- The header names the first `connection` header lists. -/
def connectionTokens (headers : List Header) : List String :=
  match (headers.find? (·.name == "connection")).bind (headerText ·.value) with
  | none => []
  | some value => (splitCommas value).filterMap (fun t => headerName (trim t))

def stripHopByHop (headers : List Header) : List Header :=
  let tokens := connectionTokens headers
  headers.filter (fun h =>
    !(h.name == "host" || hopByHop.contains h.name || tokens.contains h.name))

/-- Exactly one execution-state header, and it says `not_started`. -/
def notStarted (headers : List Header) : Bool :=
  match headers.filter (·.name == executionStateHeader) with
  | [h] => h.value == utf8 "not_started".toList
  | _ => false

def errorChainHasConnectionRefused (chain : List ErrorSource) : Bool :=
  chain.contains .connectionRefused

/-- `proxy_attempt`, once the upstream has answered or failed. -/
def proxyAttempt {β : Type} : Upstream β → ProxyAttempt β
  | .response status headers body builds =>
    let retryReason :=
      if !isSuccess status && notStarted headers
          && (!isClientError status || status == 429) then
        some .notStarted
      else none
    if builds then
      { response := .forwarded status
          ((stripHopByHop headers).filter (fun h =>
            !(h.name == executionStateHeader || h.name == logicalRequestIdHeader)))
          body
        retryReason }
    else
      { response := .upstreamUnavailable "failed to build upstream response"
        retryReason := none }
  | .failed chain =>
    { response :=
        .upstreamUnavailable "The provider plane is temporarily unavailable."
      retryReason :=
        if errorChainHasConnectionRefused chain then some .connectionRefused
        else none }

/-! ## The loop -/

/-- An attempt as it goes out: the candidate, its body, and the router's own
headers. -/
structure Sent where
  attempt : ResolvedAttempt
  body : List (String × Value)
  logicalRequestId : String
  execution : Option (String × Nat)

/-- The attempt at `index` of the plan. -/
def Plan.send (p : Plan) (index : Nat) (attempt : ResolvedAttempt) : Sent :=
  { attempt
    body := insertField p.template "model" (.string attempt.bodyModelValue)
    logicalRequestId := p.logicalRequestId
    execution := p.groupId.map (·, index + 1) }

/-- What a request sent, in order, and what its client gets. -/
structure Routed (β : Type) where
  sent : List Sent
  response : Response β

/-- `for (index, attempt) in attempts.into_iter().enumerate()`. -/
def Plan.attemptFrom {β : Type} (p : Plan) (upstream : Nat → Upstream β) (index : Nat) :
    List ResolvedAttempt → Routed β
  | [] =>
    { sent := []
      response := .refused (.invalid "The fallback chain is empty." (some "models")) }
  | attempt :: rest =>
    let result := proxyAttempt (upstream index)
    let retry := result.retryReason.filter (fun _ => decide (index + 1 < p.attempts.length))
    if retry.isSome then
      let next := p.attemptFrom upstream (index + 1) rest
      { next with sent := p.send index attempt :: next.sent }
    else { sent := [p.send index attempt], response := result.response }

/-- `proxy_universal` for a request with `models` or `provider`;
`upstream k` answers the attempt after `k` others. -/
def proxyUniversal {β : Type} (env : Env) (upstream : Nat → Upstream β) (r : Request) :
    Routed β :=
  match plan env r with
  | .error refusal => { sent := [], response := .refused refusal }
  | .ok p => p.attemptFrom upstream 0 p.attempts

/-! ## What the loop sends -/

/-- The attempt provably did not run: its connection was refused, or its
answer, neither a success nor a client error but a 429, has exactly one
execution-state header, which says `not_started`. -/
def Upstream.NotRun {β : Type} : Upstream β → Prop
  | .failed chain => ErrorSource.connectionRefused ∈ chain
  | .response status headers _ builds =>
    builds = true ∧ ¬ isSuccess status ∧ (¬ isClientError status ∨ status = 429) ∧
      ∃ h, headers.filter (·.name == executionStateHeader) = [h] ∧
        h.value = utf8 "not_started".toList

theorem notStarted_iff {headers : List Header} :
    notStarted headers = true ↔
      ∃ h, headers.filter (·.name == executionStateHeader) = [h] ∧
        h.value = utf8 "not_started".toList := by
  unfold notStarted
  split
  · rename_i h hone
    simp [hone]
  · rename_i hnot
    simp only [Bool.false_eq_true, false_iff]
    rintro ⟨h, hone, -⟩
    exact hnot h hone

theorem retryReason_isSome {β : Type} (u : Upstream β) :
    (proxyAttempt u).retryReason.isSome = true ↔ u.NotRun := by
  cases u with
  | failed chain =>
    simp only [proxyAttempt, errorChainHasConnectionRefused, Upstream.NotRun]
    by_cases hmem : ErrorSource.connectionRefused ∈ chain
    · simp [hmem]
    · simp [hmem]
  | response status headers body builds =>
    cases builds with
    | false => simp [proxyAttempt, Upstream.NotRun]
    | true =>
      simp only [proxyAttempt, if_true, Upstream.NotRun, true_and, ← notStarted_iff]
      split
      · rename_i hretry
        simp only [guard_iffs, Bool.not_eq_eq_eq_not, Bool.not_true] at hretry
        simp [hretry]
      · rename_i hretry
        simp only [guard_iffs, Bool.not_eq_eq_eq_not, Bool.not_true] at hretry
        simp only [isSome_none, Bool.false_eq_true, false_iff, Bool.not_eq_true]
        tauto

/-- The loop over the rest of a plan: it sends the first `n` of what is left,
the last of them answers the client, and each before it did not run. -/
structure Serial {β : Type} (p : Plan) (upstream : Nat → Upstream β) (index : Nat)
    (rest : List ResolvedAttempt) (routed : Routed β) (n : Nat) : Prop where
  pos : 0 < n
  within : n ≤ rest.length
  sent : routed.sent = (rest.take n).mapIdx (fun k attempt => p.send (index + k) attempt)
  notRun : ∀ k, k + 1 < n → (upstream (index + k)).NotRun
  stops : n < rest.length → ¬ (upstream (index + (n - 1))).NotRun
  response : routed.response = (proxyAttempt (upstream (index + (n - 1)))).response

theorem attemptFrom_serial {β : Type} (p : Plan) (upstream : Nat → Upstream β)
    {index : Nat} {rest : List ResolvedAttempt} (hne : rest ≠ [])
    (hlength : index + rest.length = p.attempts.length) :
    ∃ n, Serial p upstream index rest (p.attemptFrom upstream index rest) n := by
  induction rest generalizing index with
  | nil => exact absurd rfl hne
  | cons attempt rest ih =>
    rw [length_cons] at hlength
    have hretries : ((proxyAttempt (upstream index)).retryReason.filter
        (fun _ => decide (index + 1 < p.attempts.length))).isSome = true ↔
        (upstream index).NotRun ∧ rest ≠ [] := by
      rw [← retryReason_isSome, ← List.length_pos_iff]
      cases (proxyAttempt (upstream index)).retryReason with
      | none => simp
      | some =>
        simp only [Option.filter_some, isSome_some, true_and]
        by_cases hmore : index + 1 < p.attempts.length
        · simp only [hmore, decide_true, if_true, isSome_some, true_iff]
          omega
        · simp only [hmore, decide_false, Bool.false_eq_true, if_false,
            isSome_none, false_iff]
          omega
    rw [Plan.attemptFrom]
    split
    · rename_i hretry
      obtain ⟨hnot, hrest⟩ := hretries.mp hretry
      obtain ⟨n, hn⟩ := @ih (index + 1) hrest (by omega)
      have hshift : index + 1 + (n - 1) = index + (n + 1 - 1) := by
        have := hn.pos
        omega
      refine ⟨n + 1, Nat.succ_pos n, ?_, ?_, ?_, ?_, ?_⟩
      · rw [length_cons]
        exact Nat.succ_le_succ hn.within
      · simp only [hn.sent, take_succ_cons, List.mapIdx_cons, Nat.add_zero,
          Nat.add_assoc, Nat.add_comm 1]
      · intro k hk
        cases k with
        | zero => exact hnot
        | succ k =>
          have hstep := hn.notRun k (by omega)
          rwa [Nat.add_assoc, Nat.add_comm 1 k] at hstep
      · intro hmore
        rw [length_cons] at hmore
        rw [← hshift]
        exact hn.stops (by omega)
      · rw [← hshift]
        exact hn.response
    · rename_i hretry
      refine ⟨1, Nat.one_pos, ?_, ?_, ?_, ?_, rfl⟩
      · rw [length_cons]
        exact Nat.succ_le_succ (Nat.zero_le _)
      · simp
      · intro k hk
        omega
      · intro hmore hnot
        rw [length_cons] at hmore
        refine hretry (hretries.mpr ⟨hnot, ?_⟩)
        rw [← List.length_pos_iff]
        omega

/-- What the attempt after `k` others carries. -/
structure Carries (env : Env) (r : Request) (p : Plan) (k : Nat) (s : Sent) : Prop where
  logical : env.logicalRequestId = some s.logicalRequestId
  numbered : 1 < p.attempts.length →
    ∃ group, env.executionGroupId = some group ∧ s.execution = some (group, k + 1)
  alone : p.attempts.length = 1 → s.execution = none
  model : s.body.lookup "model" = some (.string s.attempt.bodyModelValue)
  selectors : s.body.lookup "models" = none ∧ s.body.lookup "provider" = none
  rest : ∀ key ∉ routingFields, s.body.lookup key = r.fields.lookup key

theorem Planned.carries {env : Env} {r : Request} {p : Plan} (h : Planned env r p) (k : Nat)
    (attempt : ResolvedAttempt) : Carries env r p k (p.send k attempt) where
  logical := h.logical
  numbered hmany := by
    have hsome := h.grouped hmany
    have hgroup := h.group
    rw [if_pos hmany] at hgroup
    obtain ⟨group, hid⟩ := isSome_iff_exists.mp hsome
    refine ⟨group, hgroup ▸ hid, ?_⟩
    simp [Plan.send, hid]
  alone hone := by
    have hgroup := h.group
    rw [if_neg (by omega)] at hgroup
    simp [Plan.send, hgroup]
  model := lookup_insertField_self ..
  selectors := by simpa [Plan.send, lookup_insertField_ne] using h.selectors
  rest key hkey := by
    have hmodel : key ≠ "model" := by
      rintro rfl
      exact hkey (mem_cons_self ..)
    simpa [Plan.send, lookup_insertField_ne _ _ hmodel] using h.rest key hkey

/-- The headers of an answer that are the connection's or the router's own. -/
def hiddenHeaders (headers : List Header) : List String :=
  "host" :: executionStateHeader :: logicalRequestIdHeader :: hopByHop ++ connectionTokens headers

/-- The client gets the status, the body and the other headers of the answer. -/
def Upstream.AnsweredBy {β : Type} : Upstream β → Response β → Prop
  | .response status headers body true, reply =>
    reply = .forwarded status
      (headers.filter (fun h => decide (h.name ∉ hiddenHeaders headers))) body
  | .response _ _ _ false, reply =>
    reply = .upstreamUnavailable "failed to build upstream response"
  | .failed _, reply =>
    reply = .upstreamUnavailable "The provider plane is temporarily unavailable."

theorem answeredBy_proxyAttempt {β : Type} (u : Upstream β) :
    u.AnsweredBy (proxyAttempt u).response := by
  rcases u with ⟨status, headers, body, _ | _⟩ | chain
  · rfl
  · simp only [Upstream.AnsweredBy, proxyAttempt, if_true, stripHopByHop, List.filter_filter]
    congr 2
    funext h
    rw [Bool.eq_iff_iff]
    simp only [hiddenHeaders, guard_iffs, beq_eq_false_iff_ne, List.contains_eq_mem,
      cons_append, mem_cons, mem_append, not_or]
    tauto
  · rfl

/-- For every request, every catalog and policy answer and every sequence of
upstream outcomes: a request without a plan sends nothing; one with a plan
sends its first `n` attempts in order, no candidate twice, each with its own
model in the client's body and numbered from 1 under the request's own group
exactly when the plan has a fallback; an attempt follows another only when that
one did not run; and the client gets the answer to the last one sent. -/
theorem fallback_follows_plan {β : Type} (env : Env) (upstream : Nat → Upstream β)
    (r : Request) :
    match plan env r with
    | .error refusal =>
      proxyUniversal env upstream r = { sent := [], response := .refused refusal }
    | .ok p =>
      Planned env r p ∧
      ∃ n, 0 < n ∧ n ≤ p.attempts.length ∧
        (proxyUniversal env upstream r).sent.map (·.attempt) = p.attempts.take n ∧
        ((proxyUniversal env upstream r).sent.map (·.attempt.catalogId)).Nodup ∧
        (∀ k s, (proxyUniversal env upstream r).sent[k]? = some s → Carries env r p k s) ∧
        (∀ k, k + 1 < n → (upstream k).NotRun) ∧
        (n < p.attempts.length → ¬ (upstream (n - 1)).NotRun) ∧
        (upstream (n - 1)).AnsweredBy (proxyUniversal env upstream r).response := by
  unfold proxyUniversal
  cases hplan : plan env r with
  | error => rfl
  | ok p =>
    have hplanned := planned_of_plan hplan
    obtain ⟨n, hn⟩ := attemptFrom_serial p upstream hplanned.nonempty (Nat.zero_add _)
    have hsent := hn.sent
    have hnotRun := hn.notRun
    have hstops := hn.stops
    have hresponse := hn.response
    simp only [Nat.zero_add] at hsent hnotRun hstops hresponse
    have hattempts : (p.attemptFrom upstream 0 p.attempts).sent.map (·.attempt) =
        p.attempts.take n := by
      rw [hsent]
      apply List.ext_getElem
      · simp
      · intro k _ _
        simp [Plan.send]
    refine ⟨hplanned, n, hn.pos, hn.within, hattempts, ?_, ?_, hnotRun, hstops, ?_⟩
    · have hids := congrArg (List.map (·.catalogId)) hattempts
      rw [List.map_map] at hids
      exact hids ▸ hplanned.nodup.sublist ((List.take_sublist _ _).map _)
    · intro k s hs
      rw [hsent, List.getElem?_mapIdx, map_eq_some_iff] at hs
      obtain ⟨attempt, -, rfl⟩ := hs
      exact hplanned.carries k attempt
    · rw [hresponse]
      exact answeredBy_proxyAttempt _

def twoModels : Env where
  fallbackEnabled := true
  aggregate := ⟨false,
    [("anthropic", ⟨"anthropic/a", "a", []⟩), ("openai", ⟨"openai/b", "b", []⟩)]⟩
  policyBodyLen _ := 100
  policy _ := .reply 200 (some ⟨1, .unrestricted, ["anthropic/a", "openai/b"]⟩)
  logicalRequestId := some "request"
  executionGroupId := some "group"

def twoModelsPlan : Plan where
  attempts :=
    [⟨"anthropic/a", "anthropic/a", .anthropic, "a", .anthropic⟩,
      ⟨"openai/b", "openai/b", .openAi, "b", .openAi⟩]
  template := [("model", .string "anthropic/a")]
  logicalRequestId := "request"
  groupId := some "group"

/-- The first connection is refused, and the second attempt answers. -/
def refusedThenOk : Nat → Upstream String
  | 0 => .failed [.other, .connectionRefused]
  | _ => .response 200 [⟨"x-request-id", []⟩, ⟨"te", []⟩] "ok" true

theorem fallback_follows_plan_refused :
    let routed := proxyUniversal twoModels refusedThenOk
      ⟨.chat, "/v1/chat/completions", [("model", .string "anthropic/a"),
        ("models", .array [.string "openai/b"])], []⟩
    routed.sent.map (·.attempt) = twoModelsPlan.attempts ∧
      (∃ s, routed.sent[1]? = some s ∧ s.execution = some ("group", 2)) ∧
      routed.response = .forwarded 200 [⟨"x-request-id", []⟩] "ok" := by
  have hplan : plan twoModels ⟨.chat, "/v1/chat/completions",
      [("model", .string "anthropic/a"), ("models", .array [.string "openai/b"])], []⟩ =
      .ok twoModelsPlan := rfl
  have hroute := fallback_follows_plan twoModels refusedThenOk ⟨.chat, "/v1/chat/completions",
    [("model", .string "anthropic/a"), ("models", .array [.string "openai/b"])], []⟩
  rw [hplan] at hroute
  obtain ⟨-, n, hpos, hle, hsent, -, hcarries, -, hstops, hanswer⟩ := hroute
  have htwo : n = 2 := by
    by_contra hne
    have hone : n = 1 := by
      have : n ≤ 2 := hle
      omega
    subst hone
    exact hstops (by decide) (by simp [Upstream.NotRun, refusedThenOk])
  subst htwo
  refine ⟨hsent, ?_, hanswer⟩
  have hsecond := congrArg (·[1]?) hsent
  simp only [List.getElem?_map] at hsecond
  obtain ⟨s, hs, -⟩ := map_eq_some_iff.mp hsecond
  obtain ⟨group, hgroup, hnumber⟩ := (hcarries 1 s hs).numbered (by decide)
  cases hgroup
  exact ⟨s, hs, hnumber⟩

end ApiToken.Router
