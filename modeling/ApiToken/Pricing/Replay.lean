import ApiToken.Lib.Segment
import ApiToken.Pricing.FreeFirst

/-!
# Funding under replays

Pages of a ledger may be cut anywhere, overlap, repeat and come from several
workers. The state of the customer is that of one pass over the rows in the
order they were first applied in, and of each account these rows are an
initial segment of its ledger. A row that comes again leaves everything as it
is, except a top-up of free credit above the cursor: it counts again, and that is
the one thing the run must not do.
-/

namespace ApiToken.Pricing

/-- The page brings back a recorded top-up of free credit above the cursor. -/
def redoes (ledgers : String → Ledger) (s : Sync) : SyncOp → Bool
  | .getPricingUsageCursor _ => false
  | .applyPricingLedgerPage accountId afterId limit =>
    ((ledgers accountId).after afterId limit).any (fun e =>
      decide ((s.customer.pricingUsageCursors.find? accountId).getD 0 < e.id)
        && decide (0 < e.freeTopup)
        && (s.customer.pricingUsageTopups.find? (accountId, e.id)).isSome)

/-! ## One row -/

variable {e : LedgerEntry} {a : String} {st st' : PageState}

theorem freeTopup_nonneg (e : LedgerEntry) : 0 ≤ e.freeTopup := by
  unfold LedgerEntry.freeTopup
  split
  · exact le_max_left ..
  · exact le_refl _

theorem evidence_ok {s : Settlement} (h : ledgerSettlementEvidence e = .ok s) :
    e.amountNano = some s.amount ∧ e.uncollectedNano = some s.uncollected ∧
      (e.kind = .charge → s.uncollected ≤ s.amount ∧ s.collected = s.amount - s.uncollected) := by
  simp only [ledgerSettlementEvidence, ok_steps, guard_iffs, not_or] at h
  obtain ⟨amount, hamount, uncollected, huncollected, ⟨-, hcharge, -⟩, rfl⟩ := h
  refine ⟨hamount, huncollected, fun hkind => ⟨?_, by simp [hkind]⟩⟩
  by_contra hlt
  exact hcharge ⟨hkind, .inr (by simpa using hlt)⟩

theorem recordPricingTopup_ok {topups topups' : Table EntryKey UsageTopup}
    {amount : Int} (h : recordPricingTopup topups a e amount = .ok topups') :
    (topups'.find? (a, e.id)).isSome ∧
      ∀ k, (topups.find? k).isSome → (topups'.find? k).isSome := by
  simp only [recordPricingTopup, ok_steps] at h
  obtain ⟨_, -, rfl⟩ := h
  split
  · rename_i hfound
    exact ⟨by simp [hfound], fun _ hk => hk⟩
  · refine ⟨by simp, fun k hk => ?_⟩
    rw [find?_put]
    split
    · rfl
    · exact hk

/-- What a row above the cursor does: a charge makes its usage event, once;
anything else moves the free balance by the free credit it brings. -/
inductive Effect (a : String) (e : LedgerEntry) (st st' : PageState) : Prop where
  | credit (hcharges : e.charges = false)
      (hlast : st'.lastLedgerId = st.lastLedgerId) (hevents : st'.events = st.events)
      (hfree : st'.freeBalance = st.freeBalance + e.freeTopup)
      (hrecorded : 0 < e.freeTopup → (st'.topups.find? (a, e.id)).isSome)
      (hkept : ∀ k, (st.topups.find? k).isSome → (st'.topups.find? k).isSome)
  | known (hcharges : e.charges = true)
      (hfound : (st.events.find? (a, e.id)).isSome) (hsame : st' = st)
  | charge (hcharges : e.charges = true) (hcollected : 0 ≤ e.collected)
      (hlast : st'.lastLedgerId = st.lastLedgerId)
      (hnone : st.events.find? (a, e.id) = none) (ev : UsageEvent)
      (hev : ev.collectedNano = e.collected)
      (hreal : ev.realFundedNano = e.collected - min e.collected st.freeBalance)
      (hevents : st'.events = st.events.put (a, e.id) ev)
      (hfree : st'.freeBalance = st.freeBalance - min e.collected st.freeBalance)
      (htopups : st'.topups = st.topups)

theorem freeTopup_of_charges (h : e.charges = true) : e.freeTopup = 0 := by
  simp only [LedgerEntry.charges, guard_iffs] at h
  simp [LedgerEntry.freeTopup, h.1]

theorem applyFresh_effect (hfree : 0 ≤ st.freeBalance)
    (h : applyFresh a st e = .ok st') : Effect a e st st' := by
  simp only [applyFresh, bind_eq_ok] at h
  obtain ⟨s, hs, h⟩ := h
  obtain ⟨hamount, huncollected, hcharge⟩ := evidence_ok hs
  split at h
  · rename_i htopup
    obtain ⟨hkind, hpos⟩ := htopup
    have hcharges : e.charges = false := by simp [LedgerEntry.charges, hkind]
    simp only [bind_eq_ok] at h
    obtain ⟨topups, htopups, h⟩ := h
    obtain ⟨hrecorded, hkept⟩ := recordPricingTopup_ok htopups
    split at h
    · rename_i hfreeRef
      cases h
      have heq : e.freeTopup = s.amount := by
        simp [LedgerEntry.freeTopup, hkind, hfreeRef, hamount, le_of_lt hpos]
      exact .credit hcharges rfl rfl (by rw [heq]) (fun _ => hrecorded) hkept
    · rename_i hreal
      cases h
      have heq : e.freeTopup = 0 := by simp [LedgerEntry.freeTopup, hreal]
      exact .credit hcharges rfl rfl (by simp [heq]) (fun _ => hrecorded) hkept
  · rename_i htopup
    split at h
    · rename_i hskip
      cases h
      have hcharges : e.charges = false := by
        simp only [LedgerEntry.charges, hamount, getD_some, guard_iffs, not_and]
        intro hkind
        rcases hskip with hne | hle
        · exact absurd hkind hne
        · omega
      have heq : e.freeTopup = 0 := by
        unfold LedgerEntry.freeTopup
        split
        · rename_i hguard
          have hle : ¬ 0 < s.amount := fun hpos => htopup ⟨hguard.1, hpos⟩
          rw [hamount, getD_some]
          omega
        · rfl
      exact .credit hcharges rfl rfl (by rw [heq, add_zero]) (by omega) (fun _ hk => hk)
    · rename_i hskip
      simp only [not_or, not_not, not_le] at hskip
      obtain ⟨hkind, hpos⟩ := hskip
      have hcharges : e.charges = true := by
        simp [LedgerEntry.charges, hkind, hamount, hpos]
      obtain ⟨hle, hcollected⟩ := hcharge hkind
      have heq : e.collected = s.collected := by
        simp [LedgerEntry.collected, hcharges, hamount, huncollected, hcollected]
      simp only [bind_eq_ok] at h
      obtain ⟨occurredAt, -, h⟩ := h
      split at h
      · rename_i hfound
        cases h
        exact .known hcharges (by simp [hfound]) rfl
      · rename_i hnone
        cases h
        have hmin : (if s.collected < st.freeBalance then s.collected
            else st.freeBalance) = min e.collected st.freeBalance := by
          rw [heq]
          split <;> omega
        refine .charge hcharges (by omega) rfl hnone _ ?_ ?_ rfl ?_ rfl
        · simp [UsageEvent.collectedNano, heq, hcollected]
        · simp only [hmin, heq]
        · simp only [hmin]
          split <;> omega

/-! ## The state is that of one pass -/

/-- The state is what one pass over `rows` gives. -/
structure Consistent (rows : List Row) (st : PageState) : Prop where
  free : st.freeBalance = (onePass rows).freeBalance
  funded : ∀ k, (st.events.find? k).map UsageEvent.realFundedNano =
    (onePass rows).realFunded.find? k
  nonneg : 0 ≤ st.freeBalance
  /-- Both parts of an event are nonnegative. -/
  parts : ∀ {k ev}, st.events.find? k = some ev →
    0 ≤ ev.realFundedNano ∧ 0 ≤ ev.freeFundedNano
  collected : st.events.sumBy (fun _ ev => ev.collectedNano) =
    (rows.map (fun x => x.2.collected)).sum
  balance : st.freeBalance + st.events.sumBy (fun _ ev => ev.freeFundedNano) =
    (rows.map (fun x => x.2.freeTopup)).sum
  charged : ∀ x ∈ rows, x.2.charges = true → (st.events.find? (x.1, x.2.id)).isSome
  event : ∀ {k ev}, st.events.find? k = some ev → ∃ x ∈ rows, (x.1, x.2.id) = k
  recorded : ∀ x ∈ rows, 0 < x.2.freeTopup → (st.topups.find? (x.1, x.2.id)).isSome

variable {rows : List Row}

theorem Consistent.congr (h : Consistent rows st)
    (hfree : st'.freeBalance = st.freeBalance) (hevents : st'.events = st.events)
    (hkept : ∀ k, (st.topups.find? k).isSome → (st'.topups.find? k).isSome) :
    Consistent rows st' where
  free := hfree ▸ h.free
  funded := hevents ▸ h.funded
  nonneg := hfree ▸ h.nonneg
  parts := hevents ▸ h.parts
  collected := hevents ▸ h.collected
  balance := by rw [hfree, hevents]; exact h.balance
  charged := hevents ▸ h.charged
  event := hevents ▸ h.event
  recorded x hx hpos := hkept _ (h.recorded x hx hpos)

theorem Consistent.again (h : Consistent rows st) (hmem : (a, e) ∈ rows)
    (hredo : e.freeTopup = 0) (heff : Effect a e st st') : Consistent rows st' := by
  cases heff with
  | credit _ _ hevents hfree _ hkept =>
    exact h.congr (by rw [hfree, hredo, add_zero]) hevents hkept
  | known _ _ hsame =>
    rw [hsame]
    exact h
  | charge hcharges _ _ hnone =>
    have hfound := h.charged (a, e) hmem hcharges
    rw [hnone] at hfound
    cases hfound

theorem onePass_append (rows : List Row) (x : Row) :
    onePass (rows ++ [x]) = (onePass rows).next x := by
  simp [onePass]

theorem Consistent.push (h : Consistent rows st)
    (hnew : ∀ x ∈ rows, (x.1, x.2.id) ≠ (a, e.id)) (heff : Effect a e st st') :
    Consistent (rows ++ [(a, e)]) st' := by
  have hnone : st.events.find? (a, e.id) = none := by
    cases hfind : st.events.find? (a, e.id) with
    | none => rfl
    | some =>
      obtain ⟨x, hx, hkey⟩ := h.event hfind
      exact absurd hkey (hnew x hx)
  cases heff with
  | credit hcharges _ hevents hfree hrecorded hkept =>
    have hcollected : e.collected = 0 := by simp [LedgerEntry.collected, hcharges]
    have hpass : (onePass rows).next (a, e) = { onePass rows with
        freeBalance := (onePass rows).freeBalance + e.freeTopup } := by
      simp [Funding.next, hcharges]
    refine
      { free := ?_, funded := fun k => ?_, nonneg := ?_, parts := ?_,
        collected := ?_, balance := ?_, charged := fun x hx hc => ?_,
        event := fun hfind => ?_, recorded := fun x hx hpos => ?_ }
    · rw [onePass_append, hpass, hfree, h.free]
    · rw [onePass_append, hpass, hevents]
      exact h.funded k
    · rw [hfree]
      exact add_nonneg h.nonneg (freeTopup_nonneg e)
    · rw [hevents]
      exact h.parts
    · rw [hevents, h.collected]
      simp [hcollected]
    · have hb := h.balance
      rw [hevents, hfree, map_append, List.sum_append, ← hb]
      simp only [map_cons, map_nil, sum_cons, sum_nil]
      omega
    · rw [hevents]
      rcases mem_append.mp hx with hx | hx
      · exact h.charged x hx hc
      · cases mem_singleton.mp hx
        rw [hcharges] at hc
        cases hc
    · rw [hevents] at hfind
      obtain ⟨x, hx, hkey⟩ := h.event hfind
      exact ⟨x, mem_append_left _ hx, hkey⟩
    · rcases mem_append.mp hx with hx | hx
      · exact hkept _ (h.recorded x hx hpos)
      · cases mem_singleton.mp hx
        exact hrecorded hpos
  | known _ hfound =>
    rw [hnone] at hfound
    cases hfound
  | charge hcharges hcollected hlast _ ev hev hreal hevents hfree htopups =>
    have hpass : (onePass rows).next (a, e) =
        { freeBalance := (onePass rows).freeBalance
            - min e.collected (onePass rows).freeBalance
          realFunded := (onePass rows).realFunded.put (a, e.id)
            (e.collected - min e.collected (onePass rows).freeBalance) } := by
      simp [Funding.next, hcharges]
    have hnonneg := h.nonneg
    have hfreeFunded : ev.freeFundedNano = min e.collected st.freeBalance := by
      rw [UsageEvent.freeFundedNano, hev, hreal]
      omega
    refine
      { free := ?_, funded := fun k => ?_, nonneg := ?_, parts := fun hfind => ?_,
        collected := ?_, balance := ?_, charged := fun x hx hc => ?_,
        event := fun hfind => ?_, recorded := fun x hx hpos => ?_ }
    · rw [onePass_append, hpass, hfree, h.free]
    · rw [onePass_append, hpass, hevents, find?_put, find?_put]
      split
      · rw [map_some, hreal, h.free]
      · exact h.funded k
    · rw [hfree]
      omega
    · rw [hevents, find?_put] at hfind
      split at hfind
      · cases hfind
        rw [hreal, hfreeFunded]
        omega
      · exact h.parts hfind
    · rw [hevents, sumBy_put_new _ _ hnone, h.collected, hev]
      simp
    · have hb := h.balance
      rw [hevents, sumBy_put_new _ _ hnone, hfree, hfreeFunded, map_append, List.sum_append, ← hb]
      simp only [map_cons, map_nil, sum_cons, sum_nil, freeTopup_of_charges hcharges]
      omega
    · rw [hevents, find?_put]
      split
      · rfl
      · rename_i hne
        rcases mem_append.mp hx with hx | hx
        · exact h.charged x hx hc
        · cases mem_singleton.mp hx
          exact absurd rfl hne
    · rw [hevents, find?_put] at hfind
      split at hfind
      · rename_i heq
        exact ⟨(a, e), mem_append_right _ (mem_singleton_self _), heq⟩
      · obtain ⟨x, hx, hkey⟩ := h.event hfind
        exact ⟨x, mem_append_left _ hx, hkey⟩
    · rw [htopups]
      rcases mem_append.mp hx with hx | hx
      · exact h.recorded x hx hpos
      · cases mem_singleton.mp hx
        rw [freeTopup_of_charges hcharges] at hpos
        omega

/-! ## What has been consumed -/

def rowsOf (a : String) (rows : List Row) : List LedgerEntry :=
  (rows.filter (fun x => x.1 == a)).map Prod.snd

theorem mem_rowsOf : e ∈ rowsOf a rows ↔ (a, e) ∈ rows := by
  simp only [rowsOf, mem_map, mem_filter, beq_iff_eq]
  constructor
  · rintro ⟨⟨a', e'⟩, ⟨hmem, rfl⟩, rfl⟩
    exact hmem
  · intro hmem
    exact ⟨(a, e), ⟨hmem, rfl⟩, rfl⟩

variable {ledgers : String → Ledger} {n start : Nat}

/-- The rows are a gapless prefix of each ledger. -/
structure Held (ledgers : String → Ledger) (rows : List Row) : Prop where
  mem : ∀ x ∈ rows, x.2 ∈ (ledgers x.1).rows
  increasing : ∀ a, Increasing LedgerEntry.id (rowsOf a rows)
  closed : ∀ a, Closed LedgerEntry.id (ledgers a).rows (rowsOf a rows)

theorem Held.initial (h : Held ledgers rows) (a : String) : rowsOf a rows <+: (ledgers a).rows :=
  Increasing.initial_of_closed (ledgers a).sorted (h.increasing a)
    (fun _ he => h.mem _ (mem_rowsOf.mp he)) (h.closed a)

def Reaches (ledgers : String → Ledger) (rows : List Row) (a : String) (n : Nat) :
    Prop :=
  ∀ e ∈ (ledgers a).rows, e.id ≤ n → (a, e) ∈ rows

theorem Reaches.mono {rows' : List Row} (h : Reaches ledgers rows a n)
    (hsub : rows ⊆ rows') : Reaches ledgers rows' a n :=
  fun e he hle => hsub (h e he hle)

theorem reaches_zero (rows : List Row) (a : String) : Reaches ledgers rows a 0 := by
  intro e he hle
  have := (ledgers a).positive e he
  omega

theorem Held.push (h : Held ledgers rows) (he : e ∈ (ledgers a).rows) (hnew : (a, e) ∉ rows)
    (hbefore : ∀ e' ∈ (ledgers a).rows, e'.id < e.id → (a, e') ∈ rows) :
    Held ledgers (rows ++ [(a, e)]) := by
  have hother : ∀ a', a' ≠ a → rowsOf a' (rows ++ [(a, e)]) = rowsOf a' rows := by
    intro a' hne
    simp [rowsOf, Ne.symm hne]
  have hself : rowsOf a (rows ++ [(a, e)]) = rowsOf a rows ++ [e] := by simp [rowsOf]
  -- what is there is smaller: with something larger the row would be there
  have hlt : ∀ e' ∈ rowsOf a rows, e'.id < e.id := by
    intro e' he'
    have hmem' := h.mem _ (mem_rowsOf.mp he')
    rcases Nat.lt_trichotomy e'.id e.id with hlt | heq | hgt
    · exact hlt
    · have := Increasing.eq_of_key (ledgers a).sorted hmem' he heq
      subst this
      exact absurd (mem_rowsOf.mp he') hnew
    · exact absurd (mem_rowsOf.mp (h.closed a e' he' e he hgt)) hnew
  refine ⟨fun x hx => ?_, fun a' => ?_, fun a' => ?_⟩
  · rcases mem_append.mp hx with hx | hx
    · exact h.mem x hx
    · cases mem_singleton.mp hx
      exact he
  · by_cases ha : a' = a
    · subst ha
      rw [hself]
      refine pairwise_append.mpr
        ⟨h.increasing a', List.pairwise_singleton .., fun e' he' e'' he'' => ?_⟩
      cases mem_singleton.mp he''
      exact hlt e' he'
    · rw [hother a' ha]
      exact h.increasing a'
  · by_cases ha : a' = a
    · subst ha
      rw [hself]
      intro e2 he2 e1 he1 hlt1
      rcases mem_append.mp he2 with he2 | he2
      · exact mem_append_left _ (h.closed a' e2 he2 e1 he1 hlt1)
      · cases mem_singleton.mp he2
        exact mem_append_left _ (mem_rowsOf.mpr (hbefore e1 he1 hlt1))
    · rw [hother a' ha]
      exact h.closed a'

/-! ## One page -/

theorem subset_consume (rows : List Row) (x : Row) : rows ⊆ consume rows x := by
  unfold consume
  split
  · exact List.Subset.refl _
  · exact List.subset_append_left ..

theorem mem_consume (rows : List Row) (x : Row) : x ∈ consume rows x := by
  unfold consume
  split
  · assumption
  · exact mem_append_right _ (mem_singleton_self x)

theorem of_mem_consume {x y : Row} (h : y ∈ consume rows x) : y ∈ rows ∨ y = x := by
  unfold consume at h
  split at h
  · exact .inl h
  · exact (mem_append.mp h).imp_right mem_singleton.mp

theorem applyEntry_consume (hheld : Held ledgers rows) (hst : Consistent rows st)
    (he : e ∈ (ledgers a).rows) (hstart : Reaches ledgers rows a start)
    (hbefore : ∀ e' ∈ (ledgers a).rows, e'.id < e.id → (a, e') ∈ rows)
    (hredo : start < e.id → 0 < e.freeTopup → (a, e) ∉ rows)
    (h : applyEntry a start st e = .ok st') :
    Held ledgers (consume rows (a, e)) ∧ Consistent (consume rows (a, e)) st' ∧
      st'.lastLedgerId = max st.lastLedgerId e.id := by
  have hst1 : Consistent rows { st with lastLedgerId := max st.lastLedgerId e.id } :=
    hst.congr rfl rfl (fun _ hk => hk)
  unfold applyEntry at h
  simp only at h
  split at h
  · rename_i hle
    cases h
    have hmem := hstart e he hle
    rw [consume, if_pos hmem]
    exact ⟨hheld, hst1, rfl⟩
  · rename_i hgt
    have heff := applyFresh_effect hst1.nonneg h
    have hlast : st'.lastLedgerId = max st.lastLedgerId e.id := by
      cases heff with
      | credit _ hlast | charge _ _ hlast => exact hlast
      | known _ _ hsame => rw [hsame]
    by_cases hmem : (a, e) ∈ rows
    · rw [consume, if_pos hmem]
      have hzero : e.freeTopup = 0 := by
        have := freeTopup_nonneg e
        by_contra hne
        exact hredo (by omega) (by omega) hmem
      exact ⟨hheld, hst1.again hmem hzero heff, hlast⟩
    · rw [consume, if_neg hmem]
      refine ⟨hheld.push he hmem hbefore, hst1.push (fun x hx hkey => ?_) heff, hlast⟩
      obtain ⟨a', e'⟩ := x
      obtain ⟨rfl, hid⟩ := Prod.mk.inj hkey
      have := Increasing.eq_of_key (ledgers a').sorted (hheld.mem _ hx) he hid
      subst this
      exact hmem hx

theorem foldlM_consume {page : List LedgerEntry} (hheld : Held ledgers rows)
    (hst : Consistent rows st) (hsorted : Increasing LedgerEntry.id page)
    (hsub : page ⊆ (ledgers a).rows) (hstart : Reaches ledgers rows a start)
    (hlast : Reaches ledgers rows a st.lastLedgerId)
    (hgap : ∀ e ∈ page, ∀ e' ∈ (ledgers a).rows, e'.id < e.id → (a, e') ∈ rows ∨ e' ∈ page)
    (hredo : ∀ e ∈ page, start < e.id → 0 < e.freeTopup → (a, e) ∉ rows)
    (h : page.foldlM (applyEntry a start) st = .ok st') :
    let rows' := (page.map (fun e => (a, e))).foldl consume rows
    Held ledgers rows' ∧ Consistent rows' st' ∧ rows ⊆ rows' ∧
      (∀ e ∈ page, Reaches ledgers rows' a e.id) ∧
      Reaches ledgers rows' a st'.lastLedgerId := by
  induction page generalizing rows st with
  | nil =>
    cases h
    exact ⟨hheld, hst, List.Subset.refl _, fun _ he => absurd he not_mem_nil, hlast⟩
  | cons e _ ih =>
    obtain ⟨hlt, hrest⟩ := pairwise_cons.mp hsorted
    simp only [foldlM_cons, bind_eq_ok] at h
    obtain ⟨st1, h1, h⟩ := h
    have he := hsub (mem_cons_self ..)
    have hbefore : ∀ e' ∈ (ledgers a).rows, e'.id < e.id → (a, e') ∈ rows := by
      intro e' he' hlt'
      rcases hgap e (mem_cons_self ..) e' he' hlt' with hmem | hmem
      · exact hmem
      · rcases mem_cons.mp hmem with rfl | hmem
        · omega
        · have := hlt e' hmem
          omega
    obtain ⟨hheld1, hst1, hlast1⟩ := applyEntry_consume hheld hst he hstart hbefore
      (hredo e (mem_cons_self ..)) h1
    have hsub1 := subset_consume rows (a, e)
    have hreach : Reaches ledgers (consume rows (a, e)) a e.id := by
      intro e' he' hle
      rcases Nat.lt_or_eq_of_le hle with hlt' | heq
      · exact hsub1 (hbefore e' he' hlt')
      · rw [Increasing.eq_of_key (ledgers a).sorted he' he heq]
        exact mem_consume ..
    obtain ⟨hheld', hst', hsub', hpage, hlast'⟩ := ih hheld1 hst1 hrest
      (fun e' he' => hsub (mem_cons_of_mem _ he')) (hstart.mono hsub1)
      (by
        intro e' he' hle
        rw [hlast1] at hle
        rcases le_max_iff.mp hle with hle | hle
        · exact hsub1 (hlast e' he' hle)
        · exact hreach e' he' hle)
      (by
        intro e1 he1 e' he' hlt'
        rcases hgap e1 (mem_cons_of_mem _ he1) e' he' hlt' with hmem | hmem
        · exact .inl (hsub1 hmem)
        · rcases mem_cons.mp hmem with rfl | hmem
          · exact .inl (mem_consume ..)
          · exact .inr hmem)
      (by
        intro e1 he1 hgt hpos hmem
        rcases of_mem_consume hmem with hmem | heq
        · exact hredo e1 (mem_cons_of_mem _ he1) hgt hpos hmem
        · cases heq
          exact absurd (hlt _ he1) (Nat.lt_irrefl _))
      h
    refine ⟨hheld', hst', List.Subset.trans hsub1 hsub', fun e' he' => ?_, hlast'⟩
    rcases mem_cons.mp he' with rfl | he'
    · exact hreach.mono hsub'
    · exact hpage e' he'

theorem Ledger.increasing_after (l : Ledger) (afterId limit : Nat) :
    Increasing LedgerEntry.id (l.after afterId limit) :=
  (Increasing.filter l.sorted _).take limit

variable {afterId limit : Nat}

theorem Ledger.mem_of_after {l : Ledger} (h : e ∈ l.after afterId limit) : e ∈ l.rows :=
  (mem_filter.mp (List.mem_of_mem_take h)).1

/-- Between the position and a row of the page there is nothing but the page. -/
theorem Ledger.gap_after {l : Ledger} {e' : LedgerEntry} (h : e ∈ l.after afterId limit)
    (he' : e' ∈ l.rows) (hlt : e'.id < e.id) :
    e'.id ≤ afterId ∨ e' ∈ l.after afterId limit := by
  by_cases hle : e'.id ≤ afterId
  · exact .inl hle
  · have hmem : e' ∈ l.rows.filter (fun e => afterId < e.id) :=
      mem_filter.mpr ⟨he', by simpa using hle⟩
    have hclosed := (Increasing.filter l.sorted
      (fun e => decide (afterId < e.id))).closed_take limit
    exact .inr (hclosed e h e' hmem hlt)

theorem Ledger.insertionSort_after (l : Ledger) (afterId limit : Nat) :
    (l.after afterId limit).insertionSort (fun e e' => e.id ≤ e'.id) = l.after afterId limit := by
  refine List.Pairwise.insertionSort_eq ?_
  exact (l.increasing_after afterId limit).imp (fun h => Nat.le_of_lt h)

/-! ## Runs -/

def Customer.pageStart (c : Customer) : PageState :=
  { freeBalance := c.freeBalanceNano, lastLedgerId := 0,
    events := c.pricingUsageEvents, topups := c.pricingUsageTopups }

/-- The invariant of the synchronisation. -/
structure SyncInv (ledgers : String → Ledger) (s : Sync) : Prop where
  held : Held ledgers s.consumed
  consistent : Consistent s.consumed s.customer.pageStart
  positions : ∀ {a n}, (a, n) ∈ s.positions → Reaches ledgers s.consumed a n
  cursors : ∀ {a n}, s.customer.pricingUsageCursors.find? a = some n →
    Reaches ledgers s.consumed a n

variable {s : Sync}

theorem SyncInv.getPricingUsageCursor (h : SyncInv ledgers s) (a : String) :
    SyncInv ledgers (exec ledgers s (.getPricingUsageCursor a)) := by
  simp only [exec, Pricing.getPricingUsageCursor]
  split
  · rename_i last hlast
    have hkept := (find?_delete.mp hlast).1
    refine ⟨h.held, h.consistent, fun hmem => ?_, fun hfind => ?_⟩
    · rcases mem_cons.mp hmem with heq | hmem
      · cases heq
        exact h.cursors hkept
      · exact h.positions hmem
    · exact h.cursors (find?_delete.mp hfind).1
  · refine ⟨h.held, h.consistent, fun hmem => ?_, fun hfind => ?_⟩
    · rcases mem_cons.mp hmem with heq | hmem
      · cases heq
        exact reaches_zero _ _
      · exact h.positions hmem
    · simp only [find?_put] at hfind
      split at hfind
      · cases hfind
        exact reaches_zero _ _
      · exact h.cursors (find?_delete.mp hfind).1

theorem SyncInv.applyPricingLedgerPage (h : SyncInv ledgers s) {a : String}
    (hredo : redoes ledgers s (.applyPricingLedgerPage a afterId limit) = false) :
    SyncInv ledgers (exec ledgers s (.applyPricingLedgerPage a afterId limit)) := by
  simp only [exec]
  split
  · rename_i hfrom
    have hafter : Reaches ledgers s.consumed a afterId := by
      rcases hfrom with rfl | hmem
      · exact reaches_zero _ _
      · exact h.positions hmem
    split
    · exact h
    · rename_i customer hok
      unfold Pricing.applyPricingLedgerPage at hok
      split at hok
      · rename_i hempty
        cases hok
        rw [hempty]
        exact h
      · simp only [ok_steps, Ledger.insertionSort_after] at hok
        obtain ⟨st, hfold, -, -, rfl⟩ := hok
        have hstart : Reaches ledgers s.consumed a
            ((s.customer.pricingUsageCursors.find? a).getD 0) := by
          cases hcursor : s.customer.pricingUsageCursors.find? a with
          | none => exact reaches_zero _ _
          | some => exact h.cursors hcursor
        have hfold' : ((ledgers a).after afterId limit).foldlM
            (applyEntry a ((s.customer.pricingUsageCursors.find? a).getD 0))
            s.customer.pageStart = .ok st := hfold
        obtain ⟨hheld, hst, hsub, hpage, hlast⟩ := foldlM_consume h.held h.consistent
          ((ledgers a).increasing_after afterId limit)
          (fun e he => Ledger.mem_of_after he) hstart (reaches_zero _ _)
          (fun e he e' he' hlt => (Ledger.gap_after he he' hlt).imp_left (hafter e' he'))
          (by
            intro e he hgt hpos hmem
            have hrecorded := h.consistent.recorded _ hmem hpos
            have hany := List.any_eq_false.mp hredo e he
            simp [hgt, hpos, show (s.customer.pricingUsageTopups.find?
              (a, e.id)).isSome = true from hrecorded] at hany)
          hfold'
        refine ⟨hheld, hst.congr rfl rfl (fun _ hk => hk), fun hmem => ?_, fun {a' n} hfind => ?_⟩
        · rcases mem_append.mp hmem with hmem | hmem
          · obtain ⟨e, he, heq⟩ := mem_map.mp hmem
            cases heq
            exact hpage e he
          · exact (h.positions hmem).mono hsub
        · split at hfind
          · exact (h.cursors hfind).mono hsub
          · rename_i last hcursor
            rw [find?_put] at hfind
            split at hfind
            · rename_i heq
              subst heq
              cases hfind
              intro e he hle
              rcases le_max_iff.mp hle with hle | hle
              · exact hsub (h.cursors hcursor e he hle)
              · exact hlast e he hle
            · exact (h.cursors hfind).mono hsub
  · exact h

theorem syncInv_init (ledgers : String → Ledger) : SyncInv ledgers Sync.init where
  held :=
    { mem := fun _ h => absurd h not_mem_nil
      increasing := fun _ => List.Pairwise.nil
      closed := fun _ _ h => absurd h not_mem_nil }
  consistent :=
    { free := rfl, funded := fun _ => rfl, nonneg := le_refl _,
      parts := by
        intro k ev h
        cases h
      collected := rfl, balance := rfl
      charged := fun _ h => absurd h not_mem_nil
      event := by
        intro k ev h
        cases h
      recorded := fun _ h => absurd h not_mem_nil }
  positions := fun h => absurd h not_mem_nil
  cursors := by
    intro a n h
    cases h

theorem syncInv_run {ops : List SyncOp}
    (h : Along (exec ledgers) (fun s op => redoes ledgers s op = false) Sync.init ops) :
    SyncInv ledgers (run (exec ledgers) Sync.init ops) := by
  refine run_invariant_along (fun s op hs hop => ?_) (syncInv_init ledgers) h
  cases op with
  | getPricingUsageCursor a => exact hs.getPricingUsageCursor a
  | applyPricingLedgerPage => exact hs.applyPricingLedgerPage hop

theorem map_rowsOf (h : ∀ x ∈ rows, x.1 = a) : (rowsOf a rows).map (fun e => (a, e)) = rows := by
  induction rows with
  | nil => rfl
  | cons x _ ih =>
    obtain ⟨a', e⟩ := x
    have heq : a' = a := h _ (mem_cons_self ..)
    subst heq
    have hrest := ih (fun x hx => h x (mem_cons_of_mem _ hx))
    simpa [rowsOf] using hrest

theorem Held.rowsOf_eq (h : Held ledgers rows)
    (hall : ∀ e ∈ (ledgers a).rows, (a, e) ∈ rows) : rowsOf a rows = (ledgers a).rows := by
  obtain ⟨rest, hrest⟩ := h.initial a
  cases rest with
  | nil => simpa using hrest
  | cons e rest =>
    -- the first row that is missing would be there
    have hmem : e ∈ rowsOf a rows := mem_rowsOf.mpr (hall e (by rw [← hrest]; simp))
    have hsorted : (rowsOf a rows ++ e :: rest).Pairwise
        (fun e e' => e.id < e'.id) := by
      rw [hrest]
      exact (ledgers a).sorted
    have := (pairwise_append.mp hsorted).2.2 e hmem e (mem_cons_self ..)
    omega

/-- In every run that brings no recorded top-up of free credit back above the
cursor: the free balance and the split of every usage event are those of one
pass over the rows in the order they were first applied in, and of each
account these are an initial segment of its ledger, in id order; so once an
account's ledger is consumed, and no other account had rows, they are those of
one pass over the ledger. At every moment the free balance is not negative,
the real and the free part of an event are not, the parts sum to what was
collected, and the free balance with all free parts to the free top-ups. -/
theorem free_first_replay_safe (ledgers : String → Ledger) (ops : List SyncOp)
    (h : Along (exec ledgers) (fun s op => redoes ledgers s op = false) Sync.init ops) :
    let s := run (exec ledgers) Sync.init ops
    let c := s.customer
    (c.freeBalanceNano = (onePass s.consumed).freeBalance ∧
      ∀ k, (c.pricingUsageEvents.find? k).map UsageEvent.realFundedNano =
        (onePass s.consumed).realFunded.find? k) ∧
    (∀ a, rowsOf a s.consumed <+: (ledgers a).rows) ∧
    (∀ a, (∀ e ∈ (ledgers a).rows, (a, e) ∈ s.consumed) →
      (∀ x ∈ s.consumed, x.1 = a) →
      c.freeBalanceNano = (onePass ((ledgers a).rows.map (fun e => (a, e)))).freeBalance ∧
      ∀ k, (c.pricingUsageEvents.find? k).map UsageEvent.realFundedNano =
        (onePass ((ledgers a).rows.map (fun e => (a, e)))).realFunded.find? k) ∧
    0 ≤ c.freeBalanceNano ∧
    (∀ k ev, c.pricingUsageEvents.find? k = some ev →
      0 ≤ ev.realFundedNano ∧ 0 ≤ ev.freeFundedNano) ∧
    c.pricingUsageEvents.sumBy (fun _ ev => ev.realFundedNano)
      + c.pricingUsageEvents.sumBy (fun _ ev => ev.freeFundedNano) =
      (s.consumed.map (fun x => x.2.collected)).sum ∧
    c.freeBalanceNano + c.pricingUsageEvents.sumBy (fun _ ev => ev.freeFundedNano) =
      (s.consumed.map (fun x => x.2.freeTopup)).sum := by
  intro s c
  have hinv : SyncInv ledgers s := syncInv_run h
  have hcons := hinv.consistent
  refine ⟨⟨hcons.free, hcons.funded⟩, hinv.held.initial, fun a hall honly => ?_,
    hcons.nonneg, fun k ev hfind => hcons.parts hfind, ?_, hcons.balance⟩
  · have heq : (ledgers a).rows.map (fun e => (a, e)) = s.consumed := by
      rw [← hinv.held.rowsOf_eq hall, map_rowsOf honly]
    rw [heq]
    exact ⟨hcons.free, hcons.funded⟩
  · rw [← hcons.collected, ← Table.sumBy_add]
    congr 1
    funext _ ev
    rw [UsageEvent.freeFundedNano]
    ring

def giftedLedger (a : String) : Ledger :=
  if a = "acct_a" then
    { rows :=
        [{ id := 1, kind := .topup, amountNano := some 10, uncollectedNano := some 0,
           ref := some "promo:new-year", ts := 1 },
         { id := 2, kind := .charge, amountNano := some 4, uncollectedNano := some 0,
           ref := none, ts := 2 }]
      sorted := by decide
      positive := by decide }
  else { rows := [], sorted := .nil, positive := fun _ h => absurd h not_mem_nil }

def overlappingRun : List SyncOp :=
  [.getPricingUsageCursor "acct_a", .applyPricingLedgerPage "acct_a" 0 1,
   .applyPricingLedgerPage "acct_a" 0 2, .getPricingUsageCursor "acct_b",
   .applyPricingLedgerPage "acct_b" 0 2, .getPricingUsageCursor "acct_a",
   .applyPricingLedgerPage "acct_a" 1 2]

/-- Overlapping pages and another account in between: six of the ten are left. -/
theorem free_first_replay_safe_overlapping :
    let s := run (exec giftedLedger) Sync.init overlappingRun
    s.customer.freeBalanceNano = 6 ∧ s.consumed.length = 2 ∧
      s.customer.freeBalanceNano = (onePass s.consumed).freeBalance := by
  have halong : Along (exec giftedLedger) (fun s op => redoes giftedLedger s op = false)
      Sync.init overlappingRun := by
    decide +kernel
  refine ⟨by decide +kernel, by decide +kernel, ?_⟩
  exact (free_first_replay_safe giftedLedger overlappingRun halong).1.1

def remappedRun : List SyncOp :=
  [.getPricingUsageCursor "acct_a", .applyPricingLedgerPage "acct_a" 0 2,
   .getPricingUsageCursor "acct_b", .getPricingUsageCursor "acct_a",
   .applyPricingLedgerPage "acct_a" 0 2]

/-- The cursor of `acct_a` is dropped for that of `acct_b`, and its page read again:
the free top-up counts twice. -/
theorem free_topup_counted_twice :
    let s := run (exec giftedLedger) Sync.init remappedRun
    s.consumed = (giftedLedger "acct_a").rows.map (fun e => ("acct_a", e)) ∧
      s.customer.freeBalanceNano = 16 ∧ (onePass s.consumed).freeBalance = 6 := by
  decide +kernel

end ApiToken.Pricing
