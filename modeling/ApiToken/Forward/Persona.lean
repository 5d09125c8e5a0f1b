import ApiToken.Lib.Members
import ApiToken.Meter.Usage

/-!
# The body of an attempt

`forward` keeps one parsed body and edits it in place before every attempt:
`set_persona_user_id_if_absent` and `rewrite_subscription_attribution` give it
the persona of the subscription that the attempt goes to.
-/

namespace ApiToken.Forward

open Meter (Value)

/-! ## Identity and attribution -/

def textBlock (text : String) : Value :=
  .object [("type", .string "text"), ("text", .string text)]

def billingMarker : String := "x-anthropic-billing-header:"

def startsWith (marker text : String) : Bool := marker.toList.isPrefixOf text.toList

def isCcMarker (text : String) : Bool :=
  startsWith billingMarker text || startsWith "You are Claude Code" text
    || startsWith "You are a Claude agent" text

def firstText (blocks : List Value) : Option String :=
  (blocks.head?.bind (Value.get "text")).bind Value.asStr

def ensureSubscriptionIdentity (identity : String) : Value → Value
  | .object fields =>
    if (fields.lookup "messages").isNone then .object fields
    else match fields.lookup "system" with
      | none => .object (setMember "system" (.array [textBlock identity]) fields)
      | some (.string s) =>
        .object (setMember "system" (.array [textBlock identity, textBlock s]) fields)
      | some (.array blocks) =>
        if (firstText blocks).any isCcMarker then .object fields
        else .object (setMember "system" (.array (textBlock identity :: blocks)) fields)
      | some _ => .object fields
  | v => v

def behindBilling (blocks : List Value) : List Value :=
  if (firstText blocks).any (startsWith billingMarker) then blocks.tail else blocks

def rewriteSubscriptionAttribution (text : String) : Value → Value
  | .object fields =>
    match fields.lookup "system" with
    | some (.array blocks) =>
      .object (setMember "system" (.array (textBlock text :: behindBilling blocks)) fields)
    | _ => .object fields
  | v => v

def setPersonaUserIdIfAbsent (userId : String) : Value → Value
  | .object fields =>
    match fields.lookup "metadata" with
    | none | some .null =>
      .object (setMember "metadata" (.object [("user_id", .string userId)]) fields)
    | some (.object metadata) =>
      if (metadata.lookup "user_id").isSome then .object fields
      else .object (setMember "metadata"
        (.object (setMember "user_id" (.string userId) metadata)) fields)
    | some _ => .object fields
  | v => v

/-! ## Attempts -/

/-- What `persona_user_id` and `persona_cch` make of the subscription of an
attempt, and the session. -/
structure Persona where
  userId : String
  cch : String

/-- What a request is forwarded with. -/
structure Config where
  billable : Bool
  injectIdentity : Bool
  identity : String
  injectBilling : Bool
  ccVersion : String
  ccEntrypoint : String

def Config.attribution (cfg : Config) (p : Persona) : String :=
  billingMarker ++ " cc_version=" ++ cfg.ccVersion ++ "; cc_entrypoint="
    ++ cfg.ccEntrypoint ++ "; cch=" ++ p.cch ++ ";"

/-- The body that the attempts share at first. -/
def Config.template (cfg : Config) (v : Value) : Value :=
  if cfg.injectIdentity then ensureSubscriptionIdentity cfg.identity v else v

def Config.edit (cfg : Config) (v : Value) (p : Persona) : Value :=
  if cfg.billable then
    let v := setPersonaUserIdIfAbsent p.userId v
    if cfg.injectBilling then rewriteSubscriptionAttribution (cfg.attribution p) v else v
  else v

def Config.body (cfg : Config) (v : Value) (attempts : List Persona) : Value :=
  attempts.foldl cfg.edit (cfg.template v)

def lacksUserId (v : Value) : Bool :=
  match v with
  | .object fields =>
    match fields.lookup "metadata" with
    | none | some .null => true
    | some (.object metadata) => (metadata.lookup "user_id").isNone
    | some _ => false
  | _ => false

def userIdOf (v : Value) : Option Value := (v.get "metadata").bind (Value.get "user_id")

def systemBlocks : Option Value → List Value
  | some (.array blocks) => blocks
  | some (.string s) => [textBlock s]
  | _ => []

/-- What the body of an attempt for `p` holds: the user id of `p` where the
client gave none, the attribution of `p` before the system prompt, and
everything of the client as it was. -/
structure Config.Carries (cfg : Config) (v : Value) (p : Persona) (body : Value) : Prop where
  userId : cfg.billable = true → lacksUserId v = true →
    userIdOf body = some (.string p.userId)
  supplied : lacksUserId v = false → body.get "metadata" = v.get "metadata"
  metadata : ∀ key, key ≠ "user_id" →
    (body.get "metadata").bind (Value.get key) = (v.get "metadata").bind (Value.get key)
  client : systemBlocks (v.get "system") <:+ systemBlocks ((cfg.template v).get "system")
  system : cfg.billable = true → cfg.injectBilling = true → ∀ blocks,
    (cfg.template v).get "system" = some (.array blocks) →
      body.get "system" = some (.array (textBlock (cfg.attribution p) :: behindBilling blocks))
  plain : cfg.billable = false ∨ cfg.injectBilling = false →
    body.get "system" = (cfg.template v).get "system"
  rest : ∀ key, key ≠ "metadata" → key ≠ "system" → body.get key = v.get key

/-! ## One edit -/

theorem behindBilling_attribution (cfg : Config) (p : Persona) (blocks : List Value) :
    behindBilling (textBlock (cfg.attribution p) :: blocks) = blocks := by
  have hmarked : startsWith billingMarker (cfg.attribution p) = true := by
    simp only [startsWith, Config.attribution, String.toList_append, append_assoc,
      List.isPrefixOf_iff_prefix, prefix_append]
  have htext : firstText (textBlock (cfg.attribution p) :: blocks)
      = some (cfg.attribution p) := rfl
  simp only [behindBilling, htext, any_some, hmarked, if_true, List.tail_cons]

variable {key : String}

theorem rewrite_get_ne (hne : key ≠ "system") (text : String) (v : Value) :
    (rewriteSubscriptionAttribution text v).get key = v.get key := by
  unfold rewriteSubscriptionAttribution
  split
  · split
    · exact lookup_setMember_ne hne
    · rfl
  · rfl

theorem setPersona_get_ne (hne : key ≠ "metadata") (userId : String) (v : Value) :
    (setPersonaUserIdIfAbsent userId v).get key = v.get key := by
  unfold setPersonaUserIdIfAbsent
  split
  · split
    · exact lookup_setMember_ne hne
    · exact lookup_setMember_ne hne
    · split
      · rfl
      · exact lookup_setMember_ne hne
    · rfl
  · rfl

theorem setPersona_of_supplied {v : Value} (h : lacksUserId v = false) (userId : String) :
    setPersonaUserIdIfAbsent userId v = v := by
  unfold lacksUserId at h
  unfold setPersonaUserIdIfAbsent
  split
  · next fields =>
    simp only at h
    split
    · next hmeta => simp [hmeta] at h
    · next hmeta => simp [hmeta] at h
    · next metadata hmeta =>
      simp only [hmeta] at h
      rw [if_pos (by simpa using h)]
    · rfl
  · rfl

theorem setPersona_userId {v : Value} (h : lacksUserId v = true) (userId : String) :
    userIdOf (setPersonaUserIdIfAbsent userId v) = some (.string userId) := by
  unfold lacksUserId at h
  split at h
  · next fields =>
    unfold setPersonaUserIdIfAbsent
    simp only
    split at h
    · simp [userIdOf, Value.get]
    · simp [userIdOf, Value.get]
    · rw [if_neg (by rw [isNone_iff_eq_none.mp h]; simp)]
      simp [userIdOf, Value.get]
    · cases h
  · cases h

theorem setPersona_settles (userId : String) (v : Value) :
    lacksUserId (setPersonaUserIdIfAbsent userId v) = false := by
  cases hlacks : lacksUserId v with
  | false => rw [setPersona_of_supplied hlacks, hlacks]
  | true =>
    have huser := setPersona_userId hlacks userId
    cases hnew : setPersonaUserIdIfAbsent userId v with
    | object fields =>
      rw [hnew] at huser
      simp only [userIdOf, Value.get] at huser
      cases hmeta : fields.lookup "metadata" with
      | none => simp [hmeta] at huser
      | some m =>
        cases m with
        | object =>
          simp only [hmeta, bind_some, Value.get] at huser
          simp only [lacksUserId, hmeta, huser, Option.isNone_some]
        | _ => simp [hmeta, Value.get] at huser
    | _ => rfl

theorem setPersona_metadata (hne : key ≠ "user_id") (userId : String) (v : Value) :
    ((setPersonaUserIdIfAbsent userId v).get "metadata").bind (Value.get key)
      = (v.get "metadata").bind (Value.get key) := by
  unfold setPersonaUserIdIfAbsent
  split
  · split
    · next hmeta => simp [Value.get, hmeta, hne]
    · next hmeta => simp [Value.get, hmeta, hne]
    · next metadata hmeta =>
      split
      · rfl
      · simp [Value.get, hmeta, lookup_setMember_ne hne]
    · rfl
  · rfl

theorem rewrite_lacks (text : String) (v : Value) :
    lacksUserId (rewriteSubscriptionAttribution text v) = lacksUserId v := by
  cases v with
  | object fields =>
    have hmeta := rewrite_get_ne (show "metadata" ≠ "system" by decide) text (.object fields)
    simp only [rewriteSubscriptionAttribution] at hmeta ⊢
    split at hmeta
    · simp only [Value.get] at hmeta
      simp only [lacksUserId, hmeta]
    · rfl
  | _ => rfl

theorem rewrite_system {v : Value} {blocks : List Value} (text : String)
    (h : v.get "system" = some (.array blocks)) :
    (rewriteSubscriptionAttribution text v).get "system"
      = some (.array (textBlock text :: behindBilling blocks)) := by
  cases v with
  | object =>
    simp only [Value.get] at h
    simp only [rewriteSubscriptionAttribution, h, Value.get, lookup_setMember_self]
  | _ => cases h

/-- A second attribution takes the place of the first. -/
theorem rewrite_rewrite (cfg : Config) (p : Persona) (text : String) (v : Value) :
    rewriteSubscriptionAttribution text (rewriteSubscriptionAttribution (cfg.attribution p) v)
      = rewriteSubscriptionAttribution text v := by
  cases v with
  | object fields =>
    simp only [rewriteSubscriptionAttribution]
    cases hsystem : fields.lookup "system" with
    | none => simp [hsystem]
    | some system =>
      cases system with
      | array =>
        simp only [lookup_setMember_self, behindBilling_attribution, setMember_setMember]
      | _ => simp [hsystem]
  | _ => rfl

/-! ## The template -/

theorem template_get_ne (hne : key ≠ "system") (cfg : Config) (v : Value) :
    (cfg.template v).get key = v.get key := by
  unfold Config.template ensureSubscriptionIdentity
  split
  · split
    · split
      · rfl
      · split
        · exact lookup_setMember_ne hne
        · exact lookup_setMember_ne hne
        · split
          · rfl
          · exact lookup_setMember_ne hne
        · rfl
    · rfl
  · rfl

theorem template_client (cfg : Config) (v : Value) :
    systemBlocks (v.get "system") <:+ systemBlocks ((cfg.template v).get "system") := by
  unfold Config.template ensureSubscriptionIdentity
  split
  · split
    · split
      · exact suffix_rfl
      · split
        · next hsystem => simp [Value.get, hsystem, systemBlocks]
        · next s hsystem => simp [Value.get, hsystem, systemBlocks]
        · next blocks hsystem =>
          split
          · exact suffix_rfl
          · simp [Value.get, hsystem, systemBlocks]
        · exact suffix_rfl
    · exact suffix_rfl
  · exact suffix_rfl

theorem template_lacks (cfg : Config) (v : Value) :
    lacksUserId (cfg.template v) = lacksUserId v := by
  have hmeta := template_get_ne (show "metadata" ≠ "system" by decide) cfg v
  cases v with
  | object fields =>
    have hobject : ∃ fields', cfg.template (.object fields) = .object fields' := by
      unfold Config.template ensureSubscriptionIdentity
      grind
    obtain ⟨fields', htemplate⟩ := hobject
    rw [htemplate] at hmeta ⊢
    simp only [Value.get] at hmeta
    simp only [lacksUserId, hmeta]
  | _ => unfold Config.template ensureSubscriptionIdentity; split <;> rfl

/-! ## Rotation -/

section Rotation

variable (cfg : Config) (v : Value) (p q : Persona)

/-- After an edit only the `cch` still changes. -/
theorem edit_edit : cfg.edit (cfg.edit v p) q = cfg.edit v ⟨p.userId, q.cch⟩ := by
  unfold Config.edit
  cases cfg.billable with
  | false => rfl
  | true =>
    cases cfg.injectBilling with
    | false =>
      simp only [if_true]
      exact setPersona_of_supplied (setPersona_settles _ _) _
    | true =>
      simp only [if_true]
      rw [setPersona_of_supplied (by rw [rewrite_lacks, setPersona_settles]), rewrite_rewrite]
      rfl

theorem foldl_edit (between : List Persona) :
    (between ++ [q]).foldl cfg.edit (cfg.edit v p) = cfg.edit v ⟨p.userId, q.cch⟩ := by
  induction between generalizing p with
  | nil => exact edit_edit cfg v p q
  | cons r _ ih =>
    rw [cons_append, foldl_cons, edit_edit]
    exact ih ⟨p.userId, r.cch⟩

theorem edit_metadata (hbillable : cfg.billable = true) :
    (cfg.edit v p).get "metadata" = (setPersonaUserIdIfAbsent p.userId v).get "metadata" := by
  unfold Config.edit
  cases cfg.injectBilling <;> simp [hbillable, rewrite_get_ne (show "metadata" ≠ "system" by decide)]

theorem edit_rest (hmeta : key ≠ "metadata") (hsystem : key ≠ "system") :
    (cfg.edit v p).get key = v.get key := by
  unfold Config.edit
  split
  · split
    · rw [rewrite_get_ne hsystem, setPersona_get_ne hmeta]
    · exact setPersona_get_ne hmeta _ _
  · rfl

theorem body_single : cfg.Carries v p (cfg.body v [p]) where
  userId hbillable hlacks := by
    show userIdOf (cfg.edit (cfg.template v) p) = _
    rw [userIdOf, edit_metadata cfg _ p hbillable]
    exact setPersona_userId (by rw [template_lacks, hlacks]) p.userId
  supplied hlacks := by
    show (cfg.edit (cfg.template v) p).get "metadata" = _
    rw [← template_get_ne (by decide) cfg v]
    cases hbillable : cfg.billable with
    | false => simp [Config.edit, hbillable]
    | true =>
      rw [edit_metadata cfg _ p hbillable, setPersona_of_supplied]
      rw [template_lacks, hlacks]
  metadata key hne := by
    show ((cfg.edit (cfg.template v) p).get "metadata").bind _ = _
    rw [← template_get_ne (by decide) cfg v]
    cases hbillable : cfg.billable with
    | false => simp [Config.edit, hbillable]
    | true => rw [edit_metadata cfg _ p hbillable, setPersona_metadata hne]
  client := template_client cfg v
  system hbillable hinject blocks hblocks := by
    show (cfg.edit (cfg.template v) p).get "system" = _
    rw [Config.edit, if_pos hbillable]
    simp only [hinject, if_true]
    exact rewrite_system _ (by rwa [setPersona_get_ne (by decide)])
  plain hplain := by
    show (cfg.edit (cfg.template v) p).get "system" = _
    unfold Config.edit
    split
    · next hbillable =>
      have hinject : cfg.injectBilling = false := by simpa [hbillable] using hplain
      simp only [hinject, if_bool]
      exact setPersona_get_ne (by decide) _ _
    · rfl
  rest key hmeta hsystem := by
    show (cfg.edit (cfg.template v) p).get key = _
    rw [edit_rest cfg _ p hmeta hsystem, template_get_ne hsystem]

end Rotation

/-- The `k`-th attempt's body is what it would be were its subscription tried
first exactly when the user id needs no persona or the first one tried has
the same. -/
theorem rotation_keeps_persona_iff (cfg : Config) (v : Value) (before : List Persona)
    (p : Persona) :
    cfg.body v (before ++ [p]) = cfg.body v [p] ∧ cfg.Carries v p (cfg.body v (before ++ [p]))
      ↔ ∀ first ∈ before.head?, cfg.billable = true → lacksUserId v = true →
          first.userId = p.userId := by
  cases before with
  | nil => simpa using body_single cfg v p
  | cons first between =>
    have hbody : cfg.body v (first :: between ++ [p])
        = cfg.edit (cfg.template v) ⟨first.userId, p.cch⟩ := foldl_edit cfg _ first p between
    simp only [List.head?_cons, Option.mem_some_iff, forall_eq']
    constructor
    · intro ⟨_, hcarries⟩ hbillable hlacks
      have hp := hcarries.userId hbillable hlacks
      have hfirst := (body_single cfg v ⟨first.userId, p.cch⟩).userId hbillable hlacks
      rw [hbody] at hp
      simpa using hfirst.symm.trans hp
    · intro hsame
      have heq : cfg.body v (first :: between ++ [p]) = cfg.body v [p] := by
        rw [hbody]
        show _ = cfg.edit (cfg.template v) p
        cases hbillable : cfg.billable with
        | false => simp [Config.edit, hbillable]
        | true =>
          cases hlacks : lacksUserId v with
          | true => rw [hsame hbillable hlacks]
          | false =>
            have hsupplied : lacksUserId (cfg.template v) = false := by
              rw [template_lacks, hlacks]
            simp only [Config.edit, setPersona_of_supplied hsupplied]
            rfl
      exact ⟨heq, heq ▸ body_single cfg v p⟩

/-- A second subscription is sent the first one's user id. -/
theorem second_attempt_first_userId :
    let cfg : Config := { billable := true, injectIdentity := true, identity := "Agent",
                          injectBilling := true, ccVersion := "1", ccEntrypoint := "cli" }
    let v : Value := .object [("messages", .array [])]
    cfg.body v [⟨"a", "1"⟩, ⟨"b", "2"⟩] ≠ cfg.body v [⟨"b", "2"⟩]
      ∧ userIdOf (cfg.body v [⟨"a", "1"⟩, ⟨"b", "2"⟩]) = some (.string "a") := by
  intro cfg v
  have huser : userIdOf (cfg.body v [⟨"a", "1"⟩, ⟨"b", "2"⟩]) = some (.string "a") := rfl
  have hfirst : userIdOf (cfg.body v [⟨"b", "2"⟩]) = some (.string "b") := rfl
  refine ⟨fun heq => ?_, huser⟩
  rw [heq, hfirst] at huser
  simp at huser

end ApiToken.Forward
