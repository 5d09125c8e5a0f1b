import ApiToken.Lib.Descent
import ApiToken.Team.Data

/-!
# The conserved commission chain

The commission of a direct partner, out of which every participating parent
withholds a share, is planned by the program from the chain of partners it
loads, and asserted by a trigger that walks the table on its own, entry by
entry. The plan and the trigger are compared over every forest of partners.
-/

namespace ApiToken.Team

/-! ## Partners -/

/-- What a chain reads of a row of `partners`. Instants are microseconds. -/
structure ChainPartner where
  status : PartnerStatus
  commissionBps : Nat
  subCommissionBps : Nat
  parentPartnerId : Option String
  /-- Null falls back on the parent's `sub_commission_bps`. -/
  parentOverrideBps : Option Nat
  programEnabled : Bool
  programStartedAt : Option Int

/-- The `CHECK`s of the table. -/
def ChainPartner.check (p : ChainPartner) : Bool :=
  p.commissionBps ≤ 10000 && p.subCommissionBps ≤ 10000 && p.parentOverrideBps.all (· ≤ 2000) &&
    (!p.programEnabled || p.programStartedAt.isSome)

/-- Checked partners without a cycle. -/
structure Forest where
  partners : Table String ChainPartner
  checked : ∀ id p, partners.find? id = some p → p.check = true
  acyclic : Descent.Acyclic ChainPartner.parentPartnerId partners

/-! ## The program -/

def maxCommissionLevels : Nat := 10

/-- A partner with its key. -/
abbrev Link := String × ChainPartner

/-- The loop of `loadCommissionChain`, which visits no partner twice. -/
def loadFrom (t : Table String ChainPartner) :
    Nat → List String → Nat → Option String → Except Unit (List Link)
  | _, _, _, none => .ok []
  | 0, _, _, some _ => .ok []
  | fuel + 1, visited, taken, some id =>
    if id ∈ visited then .error ()
    else match t.find? id with
      | none => .ok []
      | some p => do
        let rest ← loadFrom t fuel (id :: visited) (taken + 1) p.parentPartnerId
        return if taken < maxCommissionLevels then (id, p) :: rest else rest

/-- `loadCommissionChain`: there are not more partners to visit than rows. -/
def loadCommissionChain (t : Table String ChainPartner) (directPartnerId : String) :
    Except Unit (List Link) :=
  loadFrom t (t.rows.length + 1) [] 0 (some directPartnerId)

/-- `eligible`: a `Date` has milliseconds, and drops what is finer. -/
def eligible (occurredAt : Int) (p : ChainPartner) : Bool :=
  p.status = .active && p.programEnabled && p.programStartedAt.any (· / 1000 ≤ occurredAt)

def cut (amountNano : Int) (bps : Nat) : Int := amountNano * bps / 10000

/-- The share of the parent of `p`, if `parent` takes part. -/
def edgeBps (takesPart : ChainPartner → Bool) (level : Nat) (p : ChainPartner)
    (parent : Option ChainPartner) : Option Nat :=
  if level + 1 < maxCommissionLevels then
    (parent.filter takesPart).map fun parent => p.parentOverrideBps.getD parent.subCommissionBps
  else none

/-- `ConservedCommissionEntryPlan`, and what an inserted row has of it. -/
structure ConservedEntry where
  partnerId : String
  level : Int
  appliedBps : Nat
  grossAmountNano : Int
  withheldAmountNano : Int
  amountNano : Int
deriving DecidableEq

def entryOf (id : String) (level applied : Nat) (gross withheld : Int) : ConservedEntry :=
  ⟨id, level, applied, gross, withheld, gross - withheld⟩

/-- The loop of `computeConservedCommissionChain`, from a level on. -/
def conservedFrom (occurredAt : Int) : Nat → Nat → Int → List Link →
    Except Unit (List ConservedEntry)
  | _, _, _, [] => .ok []
  | level, applied, gross, (id, p) :: rest =>
    if level < maxCommissionLevels ∧ eligible occurredAt p = true then
      match edgeBps (eligible occurredAt) level p (rest.head?.map Prod.snd) with
      | none => .ok [entryOf id level applied gross 0]
      | some edge =>
        if 2000 < edge then .error ()
        else if cut gross edge ≤ 0 then .ok [entryOf id level applied gross (cut gross edge)]
        else do
          let entries ← conservedFrom occurredAt (level + 1) edge (cut gross edge) rest
          return entryOf id level applied gross (cut gross edge) :: entries
    else .ok []

def computeConservedCommissionChain (partnersChain : List Link) (amountNano occurredAt : Int) :
    Except Unit (List ConservedEntry) :=
  match partnersChain with
  | [] => .ok []
  | (id, direct) :: rest =>
    if amountNano ≤ 0 ∨ eligible occurredAt direct = false ∨
        cut amountNano direct.commissionBps ≤ 0 then .ok []
    else conservedFrom occurredAt 0 direct.commissionBps (cut amountNano direct.commissionBps)
      ((id, direct) :: rest)

/-! ## The trigger -/

/-- What the trigger asks of the current partner: a null start does not make
`program_started_at > source_occurred_at` true. -/
def participates (occurredAt : Int) (p : ChainPartner) : Bool :=
  p.status = .active && p.programEnabled && p.programStartedAt.all (· ≤ occurredAt)

def parentParticipates (occurredAt : Int) (p : ChainPartner) : Bool :=
  p.status = .active && p.programEnabled && p.programStartedAt.any (· ≤ occurredAt)

/-- The loop of `assert_conserved_commission_entry`: whether it returns. At a
level, `share` says which bps and which gross amount the partner there has. -/
def assertFrom (t : Table String ChainPartner) (occurredAt : Int) (entry : ConservedEntry) :
    Nat → List String → Nat → (ChainPartner → Nat × Int) → Option String → Bool
  | _, _, _, _, none => false
  | 0, _, _, _, some _ => false
  | fuel + 1, visited, level, share, some id =>
    if id ∈ visited then false
    else match t.find? id with
      | none => false
      | some p =>
        if participates occurredAt p = false ∨ (share p).2 ≤ 0 then false
        else
          let next := edgeBps (parentParticipates occurredAt) level p
            (p.parentPartnerId.bind t.find?)
          let withheld := (next.map (cut (share p).2)).getD 0
          if next.any (2000 < ·) then false
          else if entry.level = level then
            entry = entryOf id level (share p).1 (share p).2 withheld
          else match next with
            | none => false
            | some edge =>
              if withheld ≤ 0 then false
              else assertFrom t occurredAt entry fuel (id :: visited) (level + 1)
                (fun _ => (edge, withheld)) p.parentPartnerId

def assertConservedCommissionEntry (t : Table String ChainPartner) (sourcePartnerId : String)
    (sourceBasisNano occurredAt : Int) (entry : ConservedEntry) : Bool :=
  if sourceBasisNano ≤ 0 ∨ entry.level < 0 ∨ 10 ≤ entry.level then false
  else assertFrom t (1000 * occurredAt) entry maxCommissionLevels [] 0
    (fun p => (p.commissionBps, cut sourceBasisNano p.commissionBps)) (some sourcePartnerId)

/-! ## Ancestors -/

/-- The links above a partner. -/
inductive Ancestry (t : Table String ChainPartner) : Option String → List Link → Prop where
  | root : Ancestry t none []
  | missing {id : String} (absent : t.find? id = none) : Ancestry t (some id) []
  | row {id : String} {p : ChainPartner} {rest : List Link} (found : t.find? id = some p)
      (above : Ancestry t p.parentPartnerId rest) : Ancestry t (some id) ((id, p) :: rest)

variable {id : String}

section Ancestors

variable {t : Table String ChainPartner} {next : Option String} {path : List Link}

theorem Ancestry.mem (h : Ancestry t next path) {x : Link} (hx : x ∈ path) :
    t.find? x.1 = some x.2 := by
  induction h with
  | root => cases hx
  | missing => cases hx
  | row found _ ih =>
    rcases mem_cons.mp hx with rfl | hx
    · exact found
    · exact ih hx

theorem Ancestry.head (h : Ancestry t next path) : path.head?.map Prod.snd = next.bind t.find? := by
  cases h with
  | root => rfl
  | missing absent => exact absent.symm
  | row found _ => exact found.symm

theorem Ancestry.rank_lt {rank : String → Nat} {bound : Nat}
    (hrank : ∀ k c, Descent.IsChild ChainPartner.parentPartnerId t k c → rank k < rank c)
    (h : Ancestry t next path) (hnext : ∀ id, next = some id → rank id < bound) :
    ∀ x ∈ path, rank x.1 < bound := by
  induction h generalizing bound with
  | root => exact fun x hx => absurd hx not_mem_nil
  | missing => exact fun x hx => absurd hx not_mem_nil
  | @row id p rest found above ih =>
    have hid := hnext id rfl
    rw [forall_mem_cons]
    exact ⟨hid, ih fun parent hparent => (hrank parent id ⟨p, found, hparent⟩).trans hid⟩

section

variable (hacyclic : Descent.Acyclic ChainPartner.parentPartnerId t)
include hacyclic

theorem Ancestry.nodup (h : Ancestry t next path) : (path.map Prod.fst).Nodup := by
  obtain ⟨rank, hrank⟩ := hacyclic
  induction h with
  | root => exact nodup_nil
  | missing => exact nodup_nil
  | @row id p rest found above ih =>
    refine nodup_cons.mpr ⟨fun hmem => ?_, ih⟩
    obtain ⟨x, hx, hid⟩ := mem_map.mp hmem
    have hlt := above.rank_lt hrank (fun parent hparent => hrank parent id ⟨p, found, hparent⟩) x hx
    rw [hid] at hlt
    exact absurd hlt (Nat.lt_irrefl _)

theorem ancestry_exists (next : Option String) : ∃ path, Ancestry t next path := by
  obtain ⟨rank, hrank⟩ := hacyclic
  cases next with
  | none => exact ⟨[], .root⟩
  | some id =>
    generalize hbound : rank id = bound
    induction bound using Nat.strong_induction_on generalizing id with
    | _ bound ih =>
      cases hfound : t.find? id with
      | none => exact ⟨[], .missing hfound⟩
      | some p =>
        cases hparent : p.parentPartnerId with
        | none => exact ⟨[(id, p)], .row hfound (hparent ▸ .root)⟩
        | some parent =>
          have hlt := hrank parent id ⟨p, hfound, hparent⟩
          obtain ⟨rest, habove⟩ := ih _ (hbound ▸ hlt) parent rfl
          exact ⟨(id, p) :: rest, .row hfound (hparent ▸ habove)⟩

theorem Ancestry.length_le (h : Ancestry t next path) : path.length ≤ t.rows.length := by
  have hsub : path.map Prod.fst ⊆ t.rows.map Prod.fst := fun id hid => by
    obtain ⟨x, hx, rfl⟩ := mem_map.mp hid
    exact mem_map_of_mem (mem_of_find? (h.mem hx))
  simpa using (List.subperm_of_subset (h.nodup hacyclic) hsub).length_le

end

variable {rank : String → Nat} {visited : List String}

def Below (rank : String → Nat) (visited : List String) (next : Option String) : Prop :=
  ∀ id, next = some id → ∀ v ∈ visited, rank id < rank v

theorem Below.not_mem (h : Below rank visited (some id)) : id ∉ visited :=
  fun hmem => Nat.lt_irrefl _ (h id rfl id hmem)

theorem Below.step {p : ChainPartner} (h : Below rank visited (some id))
    (hrank : ∀ k c, Descent.IsChild ChainPartner.parentPartnerId t k c → rank k < rank c)
    (found : t.find? id = some p) : Below rank (id :: visited) p.parentPartnerId := by
  intro parent hparent
  have hlt : rank parent < rank id := hrank parent id ⟨p, found, hparent⟩
  rw [forall_mem_cons]
  exact ⟨hlt, fun v hv => hlt.trans (h id rfl v hv)⟩

theorem loadFrom_eq
    (hrank : ∀ k c, Descent.IsChild ChainPartner.parentPartnerId t k c → rank k < rank c)
    (h : Ancestry t next path) {fuel taken : Nat} (hbelow : Below rank visited next)
    (hfuel : path.length < fuel) :
    loadFrom t fuel visited taken next = .ok (path.take (maxCommissionLevels - taken)) := by
  induction h generalizing fuel taken visited with
  | root => simp [loadFrom]
  | @missing id absent =>
    obtain ⟨fuel, rfl⟩ := Nat.exists_eq_succ_of_ne_zero (Nat.ne_of_gt hfuel)
    simp [loadFrom, hbelow.not_mem, absent]
  | @row id p rest found above ih =>
    obtain ⟨fuel, rfl⟩ := Nat.exists_eq_succ_of_ne_zero (Nat.ne_of_gt (Nat.zero_lt_of_lt hfuel))
    simp only [loadFrom, hbelow.not_mem, found, ↓reduceIte,
      ih (hbelow.step hrank found) (Nat.lt_of_succ_lt_succ hfuel)]
    show Except.ok _ = _
    split
    · next htaken =>
      rw [show maxCommissionLevels - taken = maxCommissionLevels - (taken + 1) + 1 by omega]
      rfl
    · next htaken =>
      rw [show maxCommissionLevels - (taken + 1) = 0 by omega,
        show maxCommissionLevels - taken = 0 by omega, List.take_zero]
      rfl

end Ancestors

/-! ## What a plan conserves -/

section Plan

variable {occurredAt gross : Int} {level applied edge : Nat} {p q : ChainPartner}
  {parent : Option ChainPartner} {chain : List Link} {entries : List ConservedEntry}

theorem edgeBps_eq_some {takesPart : ChainPartner → Bool}
    (h : edgeBps takesPart level p parent = some edge) :
    level + 1 < maxCommissionLevels ∧ ∃ q, parent = some q ∧ takesPart q = true ∧
      p.parentOverrideBps.getD q.subCommissionBps = edge := by
  unfold edgeBps at h
  split at h
  · next hlevel =>
    obtain ⟨q, hq, hedge⟩ := map_eq_some_iff.mp h
    obtain ⟨hparent, htakes⟩ := filter_eq_some_iff.mp hq
    exact ⟨hlevel, q, hparent, htakes, hedge⟩
  · cases h

theorem cut_nonneg (h : 0 ≤ gross) : 0 ≤ cut gross edge :=
  Int.ediv_nonneg (Int.mul_nonneg h (Int.natCast_nonneg _)) (by decide)

theorem cut_lt (h : 0 < gross) (hedge : edge ≤ 2000) : cut gross edge < gross := by
  refine Int.ediv_lt_of_lt_mul (by decide) (Int.mul_lt_mul_of_pos_left ?_ h)
  omega

theorem conservedFrom_cons {next : Option Nat} (hopen : level < maxCommissionLevels)
    (hin : eligible occurredAt p = true)
    (hnext : edgeBps (eligible occurredAt) level p (chain.head?.map Prod.snd) = next) :
    conservedFrom occurredAt level applied gross ((id, p) :: chain) = .ok entries ↔
      (∀ edge ∈ next, edge ≤ 2000) ∧ ∃ tail,
        entries = entryOf id level applied gross ((next.map (cut gross)).getD 0) :: tail ∧
          (tail = [] ∧ (∀ edge ∈ next, cut gross edge ≤ 0) ∨ ∃ edge ∈ next, 0 < cut gross edge ∧
            conservedFrom occurredAt (level + 1) edge (cut gross edge) chain = .ok tail) := by
  rw [conservedFrom, if_pos ⟨hopen, hin⟩, hnext]
  cases next with
  | none => simp [eq_comm]
  | some edge =>
    simp only [mem_def, some.injEq, forall_eq', exists_eq_left', map_some, getD_some]
    by_cases hbound : edge ≤ 2000
    · by_cases hstop : cut gross edge ≤ 0
      · simp [Nat.not_lt.mpr hbound, hbound, hstop, Int.not_lt.mpr hstop, eq_comm]
      · simp only [Nat.not_lt.mpr hbound, hbound, hstop, if_false, bind_eq_ok, true_and,
          and_false, false_or, Int.not_le.mp hstop]
        constructor
        · rintro ⟨tail, htail, hentries⟩
          cases hentries
          exact ⟨tail, rfl, htail⟩
        · rintro ⟨tail, rfl, htail⟩
          exact ⟨tail, htail, rfl⟩
    · simp [Nat.not_le.mp hbound, hbound]

theorem conservedFrom_spec (h : conservedFrom occurredAt level applied gross chain = .ok entries)
    (hgross : 0 < gross) :
    (∀ e ∈ entries, level ≤ e.level ∧ e.level < maxCommissionLevels ∧ 0 < e.amountNano) ∧
      entries.length ≤ maxCommissionLevels - level ∧
      (entries.map ConservedEntry.amountNano).sum =
        if level < maxCommissionLevels ∧ chain.head?.any (eligible occurredAt ·.2) = true
        then gross else 0 := by
  induction chain generalizing level applied gross entries with
  | nil =>
    cases h
    exact ⟨nofun, Nat.zero_le _, by simp⟩
  | cons link rest ih =>
    obtain ⟨id, p⟩ := link
    by_cases hopen : level < maxCommissionLevels ∧ eligible occurredAt p = true
    swap
    · rw [conservedFrom, if_neg hopen] at h
      cases h
      refine ⟨nofun, Nat.zero_le _, (if_neg fun hopen' => hopen ?_).symm⟩
      exact ⟨hopen'.1, by simpa using hopen'.2⟩
    obtain ⟨hbound, tail, rfl, htail⟩ := (conservedFrom_cons hopen.1 hopen.2 rfl).mp h
    rw [if_pos ⟨hopen.1, by simpa using hopen.2⟩, forall_mem_cons, map_cons,
      sum_cons, length_cons]
    rcases htail with ⟨rfl, hstop⟩ | ⟨edge, hedge, hmore, htail⟩
    · have hzero : ((edgeBps (eligible occurredAt) level p (rest.head?.map Prod.snd)).map
          (cut gross)).getD 0 = 0 := by
        cases hnext : edgeBps (eligible occurredAt) level p (rest.head?.map Prod.snd) with
        | none => rfl
        | some edge => exact Int.le_antisymm (hstop edge hnext) (cut_nonneg (Int.le_of_lt hgross))
      rw [hzero]
      refine ⟨⟨⟨Int.le_refl _, Int.ofNat_lt.mpr hopen.1, ?_⟩, nofun⟩, ?_, ?_⟩
      · show 0 < gross - 0
        omega
      · show 0 + 1 ≤ _
        omega
      · show gross - 0 + 0 = gross
        omega
    · obtain ⟨hlevels, hlength, hsum⟩ := ih htail hmore
      obtain ⟨hnext, q, hq, htakes, -⟩ := edgeBps_eq_some hedge
      have hopens : rest.head?.any (eligible occurredAt ·.2) = true := by
        obtain ⟨link, hlink, rfl⟩ := map_eq_some_iff.mp hq
        rw [hlink]
        exact htakes
      rw [if_pos ⟨hnext, hopens⟩] at hsum
      have hless := cut_lt hgross (hbound edge hedge)
      rw [mem_def.mp hedge, hsum]
      refine ⟨⟨⟨Int.le_refl _, Int.ofNat_lt.mpr hopen.1, Int.sub_pos_of_lt hless⟩, ?_⟩, ?_, ?_⟩
      · intro e he
        obtain ⟨hle, hrest⟩ := hlevels e he
        exact ⟨by omega, hrest⟩
      · omega
      · exact Int.sub_add_cancel _ _

end Plan

/-! ## The plan and the trigger -/

section Comparison

variable {t : Table String ChainPartner} {occurredAt gross : Int} {level applied fuel : Nat}
  {p : ChainPartner} {chain : List Link}

def startsApart (occurredAt : Int) (p : ChainPartner) : Prop :=
  ∀ started, p.programStartedAt = some started → started / 1000 = occurredAt →
    started ≤ 1000 * occurredAt

/-- Whom a positive share reaches has no start within the millisecond, and no
share on the way is above 2000. -/
def SoundFrom (occurredAt : Int) : Nat → Int → List Link → Prop
  | _, _, [] => True
  | level, gross, (_, p) :: rest => eligible occurredAt p = true → startsApart occurredAt p ∧
      ∀ edge, edgeBps (eligible occurredAt) level p (rest.head?.map Prod.snd) = some edge →
        edge ≤ 2000 ∧ (0 < cut gross edge → SoundFrom occurredAt (level + 1) (cut gross edge) rest)

/-- The program and the trigger see a partner alike, but for one whose start is
within the millisecond. -/
theorem participates_iff (occurredAt : Int) (hcheck : p.check = true) :
    participates (1000 * occurredAt) p = true ↔
      eligible occurredAt p = true ∧ startsApart occurredAt p := by
  simp only [participates, eligible, startsApart, guard_iffs]
  cases hstarted : p.programStartedAt with
  | none =>
    have henabled : p.programEnabled = false := by
      simp only [ChainPartner.check, hstarted, guard_iffs] at hcheck
      simpa using hcheck.2
    simp [henabled]
  | some started =>
    simp only [all_some, any_some, guard_iffs, some.injEq, forall_eq']
    constructor
    · rintro ⟨hactive, hle⟩
      exact ⟨⟨hactive, by omega⟩, fun _ => hle⟩
    · rintro ⟨⟨hactive, hle⟩, hapart⟩
      exact ⟨hactive, by omega⟩

theorem parentParticipates_eq (hcheck : p.check = true) (now : Int) :
    parentParticipates now p = participates now p := by
  cases hstarted : p.programStartedAt with
  | none =>
    have henabled : p.programEnabled = false := by
      simp only [ChainPartner.check, hstarted, guard_iffs] at hcheck
      simpa using hcheck.2
    simp [parentParticipates, participates, henabled]
  | some started => simp [parentParticipates, participates, hstarted]

theorem edgeBps_trigger (occurredAt : Int) (level : Nat) (p : ChainPartner)
    {parent : Option ChainPartner}
    (hcheck : ∀ q, parent = some q → q.check = true) :
    edgeBps (parentParticipates (1000 * occurredAt)) level p parent =
        edgeBps (eligible occurredAt) level p parent ∨
      edgeBps (parentParticipates (1000 * occurredAt)) level p parent = none ∧
        ∃ q, parent = some q ∧ eligible occurredAt q = true ∧ ¬ startsApart occurredAt q := by
  cases parent with
  | none => exact .inl rfl
  | some q =>
    have hiff := participates_iff occurredAt (hcheck q rfl)
    rw [← parentParticipates_eq (hcheck q rfl)] at hiff
    cases hin : parentParticipates (1000 * occurredAt) q with
    | true => simp [edgeBps, Option.filter, hin, (hiff.mp hin).1]
    | false =>
      cases helig : eligible occurredAt q with
      | false => simp [edgeBps, Option.filter, hin, helig]
      | true =>
        refine .inr ⟨by simp [edgeBps, Option.filter, hin], q, rfl, helig, fun hapart => ?_⟩
        rw [hiff.mpr ⟨helig, hapart⟩] at hin
        cases hin

/-- What is planned from a level on is what the trigger lets in there. -/
def Agrees (t : Table String ChainPartner) (occurredAt : Int) (fuel : Nat)
    (visited : List String) (level applied : Nat) (gross : Int)
    (share : ChainPartner → Nat × Int) (next : Option String) (chain : List Link) : Prop :=
  ∃ entries, conservedFrom occurredAt level applied gross chain = .ok entries ∧
    ∀ e : ConservedEntry, level ≤ e.level → e.level < maxCommissionLevels →
      (assertFrom t (1000 * occurredAt) e fuel visited level share next = true ↔ e ∈ entries)

/-- What the trigger makes of an entry at a partner that takes part. -/
theorem assertFrom_row {now : Int} {visited : List String} {share : ChainPartner → Nat × Int}
    (level fuel : Nat) (next : Option Nat) (hfresh : id ∉ visited) (found : t.find? id = some p)
    (hshare : share p = (applied, gross)) (hin : participates now p = true) (hgross : 0 < gross)
    (hnext : edgeBps (parentParticipates now) level p (p.parentPartnerId.bind t.find?) = next)
    (hbound : ∀ edge ∈ next, edge ≤ 2000) (e : ConservedEntry) :
    assertFrom t now e (fuel + 1) visited level share (some id) = true ↔
      e = entryOf id level applied gross ((next.map (cut gross)).getD 0) ∨
        e.level ≠ level ∧ ∃ edge, next = some edge ∧ 0 < cut gross edge ∧
          assertFrom t now e fuel (id :: visited) (level + 1)
            (fun _ => (edge, cut gross edge)) p.parentPartnerId = true := by
  have hshort : next.any (2000 < ·) = false := by
    cases next with
    | none => rfl
    | some edge => simpa using hbound edge rfl
  have hgross' : ¬ gross ≤ 0 := Int.not_le.mpr hgross
  simp only [assertFrom, hfresh, found, hshare, hin, hnext, hshort, hgross', ↓reduceIte,
    Bool.true_eq_false, Bool.false_eq_true, or_self]
  by_cases hlevel : e.level = level
  · simp [hlevel]
  · have hne : ∀ withheld, e ≠ entryOf id level applied gross withheld := by
      rintro withheld rfl
      exact hlevel rfl
    cases next with
    | none => simp [hlevel, hne]
    | some edge => simp [hlevel, hne]

theorem agrees_row {visited : List String} {share : ChainPartner → Nat × Int}
    (hfresh : id ∉ visited) (found : t.find? id = some p) (hshare : share p = (applied, gross))
    (hopen : level < maxCommissionLevels) (hgross : 0 < gross) (hcheck : p.check = true)
    (hparent : ∀ q, p.parentPartnerId.bind t.find? = some q → q.check = true)
    (hin : eligible occurredAt p = true) (hapart : startsApart occurredAt p)
    (hhead : level + 1 < maxCommissionLevels →
      chain.head?.map Prod.snd = p.parentPartnerId.bind t.find?)
    (hrec : ∀ edge, level + 1 < maxCommissionLevels → 0 < cut gross edge →
      (Agrees t occurredAt fuel (id :: visited) (level + 1) edge (cut gross edge)
        (fun _ => (edge, cut gross edge)) p.parentPartnerId chain ↔
          SoundFrom occurredAt (level + 1) (cut gross edge) chain)) :
    Agrees t occurredAt (fuel + 1) visited level applied gross share (some id) ((id, p) :: chain) ↔
      SoundFrom occurredAt level gross ((id, p) :: chain) := by
  have hpart := (participates_iff occurredAt hcheck).mpr ⟨hin, hapart⟩
  have hedges : edgeBps (eligible occurredAt) level p (chain.head?.map Prod.snd) =
      edgeBps (eligible occurredAt) level p (p.parentPartnerId.bind t.find?) := by
    by_cases hnext : level + 1 < maxCommissionLevels
    · rw [hhead hnext]
    · simp [edgeBps, hnext]
  have hrow := fun next => assertFrom_row level fuel next hfresh found hshare hpart hgross
  have hsound : SoundFrom occurredAt level gross ((id, p) :: chain) ↔
      ∀ edge ∈ edgeBps (eligible occurredAt) level p (p.parentPartnerId.bind t.find?),
        edge ≤ 2000 ∧
          (0 < cut gross edge → SoundFrom occurredAt (level + 1) (cut gross edge) chain) := by
    rw [SoundFrom, hedges]
    exact ⟨fun h => (h hin).2, fun h _ => ⟨hapart, h⟩⟩
  have hlevelOf : ∀ {edge}, edge ∈ edgeBps (eligible occurredAt) level p
      (p.parentPartnerId.bind t.find?) → level + 1 < maxCommissionLevels :=
    fun hedge => (edgeBps_eq_some hedge).1
  rw [hsound]
  rcases edgeBps_trigger occurredAt level p hparent with
    hsame | ⟨hnone, q, hq, hqin, hqapart⟩
  · constructor
    · rintro ⟨entries, hplan, hagree⟩ edge hedge
      obtain ⟨hbound, tail, rfl, htail⟩ := (conservedFrom_cons hopen hin hedges).mp hplan
      refine ⟨hbound edge hedge, fun hmore => (hrec edge (hlevelOf hedge) hmore).mp ?_⟩
      rcases htail with ⟨-, hstop⟩ | ⟨edge', hedge', -, htail⟩
      · exact absurd (hstop edge hedge) (Int.not_le.mpr hmore)
      obtain rfl : edge' = edge := some.inj (hedge'.symm.trans hedge)
      refine ⟨tail, htail, fun e he hmax => ?_⟩
      have hne : e.level ≠ level := by omega
      have hfirst : ∀ withheld, e ≠ entryOf id level applied gross withheld := by
        rintro withheld rfl
        exact hne rfl
      have hboth := hagree e (by omega) hmax
      rw [hrow _ hsame hbound, mem_cons, or_iff_right (hfirst _),
        or_iff_right (hfirst _)] at hboth
      rw [← hboth]
      refine ⟨fun h => ⟨hne, edge', hedge, hmore, h⟩, ?_⟩
      rintro ⟨-, edge, hedge'', -, h⟩
      obtain rfl : edge' = edge := some.inj (hedge'.symm.trans hedge'')
      exact h
    · intro hall
      have hbound := fun edge hedge => (hall edge hedge).1
      by_cases hmore : ∃ edge ∈ edgeBps (eligible occurredAt) level p
          (p.parentPartnerId.bind t.find?), 0 < cut gross edge
      · obtain ⟨edge, hedge, hmore⟩ := hmore
        obtain ⟨tail, htail, hagree⟩ :=
          (hrec edge (hlevelOf hedge) hmore).mpr ((hall edge hedge).2 hmore)
        refine ⟨_, (conservedFrom_cons hopen hin hedges).mpr
          ⟨hbound, tail, rfl, .inr ⟨edge, hedge, hmore, htail⟩⟩, fun e he hmax => ?_⟩
        rw [hrow _ hsame hbound, mem_cons]
        refine or_congr_right ⟨?_, fun hmem => ?_⟩
        · rintro ⟨hne, edge', hedge', -, h⟩
          obtain rfl : edge' = edge := some.inj (hedge'.symm.trans hedge)
          exact (hagree e (by omega) hmax).mp h
        · have hle := ((conservedFrom_spec htail hmore).1 e hmem).1
          exact ⟨by omega, edge, hedge, hmore, (hagree e hle hmax).mpr hmem⟩
      · have hstop : ∀ edge ∈ edgeBps (eligible occurredAt) level p
            (p.parentPartnerId.bind t.find?), cut gross edge ≤ 0 :=
          fun edge hedge => Int.not_lt.mp fun h => hmore ⟨edge, hedge, h⟩
        refine ⟨_, (conservedFrom_cons hopen hin hedges).mpr
          ⟨hbound, [], rfl, .inl ⟨rfl, hstop⟩⟩, fun e he _ => ?_⟩
        rw [hrow _ hsame hbound, mem_singleton, or_iff_left]
        rintro ⟨-, edge, hedge, hpos, -⟩
        exact hmore ⟨edge, hedge, hpos⟩
  · -- the trigger does not see the parent
    have hrow := hrow none hnone nofun
    simp only [reduceCtorEq, false_and, exists_false, and_false, or_false] at hrow
    constructor
    · rintro ⟨entries, hplan, hagree⟩ edge hedge
      obtain ⟨hbound, tail, rfl, -⟩ := (conservedFrom_cons hopen hin hedges).mp hplan
      have hfirst := (hrow _).mp
        ((hagree _ (Int.le_refl _) (Int.ofNat_lt.mpr hopen)).mpr (.head _))
      rw [mem_def.mp hedge] at hfirst
      have hzero : cut gross edge = 0 := congrArg ConservedEntry.withheldAmountNano hfirst
      exact ⟨hbound edge hedge, fun hmore => absurd hzero hmore.ne'⟩
    · intro hall
      have hzero : ∀ edge ∈ edgeBps (eligible occurredAt) level p
          (p.parentPartnerId.bind t.find?), cut gross edge = 0 := by
        intro edge hedge
        refine Int.le_antisymm (Int.not_lt.mp fun hmore => ?_) (cut_nonneg (Int.le_of_lt hgross))
        have hchain := (hall edge hedge).2 hmore
        have hlink := hhead (hlevelOf hedge)
        rw [hq] at hlink
        obtain ⟨⟨idq, q'⟩, hfirst, rfl⟩ := map_eq_some_iff.mp hlink
        obtain ⟨rest, rfl⟩ := List.head?_eq_some_iff.mp hfirst
        exact hqapart (hchain hqin).1
      refine ⟨_, (conservedFrom_cons hopen hin hedges).mpr ⟨fun edge hedge => (hall edge hedge).1,
        [], rfl, .inl ⟨rfl, fun edge hedge => (hzero edge hedge).le⟩⟩, fun e _ _ => ?_⟩
      rw [hrow, mem_singleton]
      cases hnext : edgeBps (eligible occurredAt) level p (p.parentPartnerId.bind t.find?) with
      | none => exact Iff.rfl
      | some edge =>
        rw [map_some, getD_some, hzero edge hnext]
        exact Iff.rfl

theorem agrees_iff {rank : String → Nat}
    (hrank : ∀ k c, Descent.IsChild ChainPartner.parentPartnerId t k c → rank k < rank c)
    (hcheck : ∀ id p, t.find? id = some p → p.check = true) (fuel : Nat) :
    ∀ {level applied gross visited share next path}, Ancestry t next path →
      Below rank visited next → level + fuel = maxCommissionLevels → 0 < gross →
      (∀ id, next = some id → ∀ p, t.find? id = some p → share p = (applied, gross)) →
      (Agrees t occurredAt fuel visited level applied gross share next (path.take fuel) ↔
        SoundFrom occurredAt level gross (path.take fuel)) := by
  induction fuel with
  | zero =>
    intro level applied gross visited share next path _ _ _ _ _
    refine iff_of_true ⟨[], rfl, fun e _ _ => ?_⟩ trivial
    cases next <;> simp [assertFrom]
  | succ fuel ih =>
    intro level applied gross visited share next path hpath hbelow hlevel hgross hshare
    cases hpath with
    | root => exact iff_of_true ⟨[], rfl, fun e _ _ => by simp [assertFrom]⟩ trivial
    | @missing id absent =>
      refine iff_of_true ⟨[], rfl, fun e _ _ => ?_⟩ trivial
      simp [assertFrom, hbelow.not_mem, absent]
    | @row id p rest found above =>
      have hopen : level < maxCommissionLevels := by omega
      have hiff := participates_iff occurredAt (hcheck id p found)
      rw [take_succ_cons]
      by_cases hin : eligible occurredAt p = true
      swap
      · -- both stop before the partner
        have hout : participates (1000 * occurredAt) p = false :=
          Bool.not_eq_true _ ▸ fun h => hin (hiff.mp h).1
        refine iff_of_true ⟨[], ?_, fun e _ _ => ?_⟩ fun h => absurd h hin
        · rw [conservedFrom, if_neg fun h => hin h.2]
        · simp [assertFrom, hbelow.not_mem, found, hout]
      by_cases hapart : startsApart occurredAt p
      swap
      · -- the program plans an entry, and the trigger stops
        refine iff_of_false ?_ fun h => hapart (h hin).1
        rintro ⟨entries, hplan, hagree⟩
        obtain ⟨-, tail, rfl, -⟩ := (conservedFrom_cons hopen hin rfl).mp hplan
        have hout : participates (1000 * occurredAt) p = false :=
          Bool.not_eq_true _ ▸ fun h => hapart (hiff.mp h).2
        have hfirst := (hagree _ (Int.le_refl _) (Int.ofNat_lt.mpr hopen)).mpr (.head _)
        simp [assertFrom, hbelow.not_mem, found, hout] at hfirst
      refine agrees_row hbelow.not_mem found (hshare id rfl p found) hopen hgross
        (hcheck id p found) (fun q hq => ?_) hin hapart (fun hnext => ?_)
        fun edge hnext hmore => ih above (hbelow.step hrank found) (by omega) hmore
          fun _ _ _ _ => rfl
      · obtain ⟨parent, -, hq⟩ := bind_eq_some_iff.mp hq
        exact hcheck parent q hq
      · rw [List.head?_take, if_neg (by omega)]
        exact above.head

end Comparison

/-! ## Every forest -/

def Forest.Conserved (f : Forest) (direct : String) (amountNano occurredAt : Int) : Prop :=
  ∃ chain entries, loadCommissionChain f.partners direct = .ok chain ∧
    computeConservedCommissionChain chain amountNano occurredAt = .ok entries ∧
    (∀ e ∈ entries, 0 < e.amountNano) ∧
    (entries = [] ∨ ∃ p, f.partners.find? direct = some p ∧
      (entries.map ConservedEntry.amountNano).sum = cut amountNano p.commissionBps) ∧
    entries.length ≤ 10 ∧
    ∀ e, assertConservedCommissionEntry f.partners direct amountNano occurredAt e = true ↔
      e ∈ entries

/-- No partner that a positive share reaches starts within the millisecond of
the source, and no share on the way is above 2000. -/
def SoundLinks (amountNano occurredAt : Int) : List Link → Prop
  | [] => True
  | (id, direct) :: rest => 0 < amountNano → 0 < cut amountNano direct.commissionBps →
      SoundFrom occurredAt 0 (cut amountNano direct.commissionBps) ((id, direct) :: rest)

/-- The program and the trigger agree on a source if and only if its chain is
sound. -/
theorem conserved_chain_iff (f : Forest) (direct : String) (amountNano occurredAt : Int) :
    f.Conserved direct amountNano occurredAt ↔
      ∀ chain, loadCommissionChain f.partners direct = .ok chain →
        SoundLinks amountNano occurredAt chain := by
  obtain ⟨path, hpath⟩ := ancestry_exists f.acyclic (some direct)
  obtain ⟨rank, hrank⟩ := f.acyclic
  have hbelow : Below rank [] (some direct) := fun _ _ v hv => absurd hv not_mem_nil
  have hload : loadCommissionChain f.partners direct = .ok (path.take 10) :=
    loadFrom_eq hrank hpath hbelow (Nat.lt_succ_of_le (hpath.length_le f.acyclic))
  have hempty : ∀ {chain}, chain = path.take 10 →
      computeConservedCommissionChain chain amountNano occurredAt = .ok [] →
      (∀ e, assertConservedCommissionEntry f.partners direct amountNano occurredAt e = false) →
      f.Conserved direct amountNano occurredAt := by
    rintro chain rfl hplan hnone
    exact ⟨_, [], hload, hplan, nofun, .inl rfl, Nat.zero_le _, fun e => by simp [hnone e]⟩
  simp only [hload, Except.ok.injEq, forall_eq']
  cases hpath with
  | missing absent =>
    refine iff_of_true (hempty rfl rfl fun e => ?_) trivial
    simp [assertConservedCommissionEntry, maxCommissionLevels, assertFrom, absent]
  | @row _ p rest found above =>
    by_cases hamount : 0 < amountNano ∧ 0 < cut amountNano p.commissionBps
    swap
    · -- nothing to divide
      refine iff_of_true (hempty rfl ?_ fun e => ?_) fun h h' => absurd ⟨h, h'⟩ hamount
      · rw [take_succ_cons, computeConservedCommissionChain, if_pos (by omega)]
      · unfold assertConservedCommissionEntry
        split
        · rfl
        · have hzero : cut amountNano p.commissionBps ≤ 0 := by omega
          simp [maxCommissionLevels, assertFrom, found, hzero]
    obtain ⟨hamount, hgross⟩ := hamount
    have hagrees : Agrees f.partners occurredAt 10 [] 0 p.commissionBps
        (cut amountNano p.commissionBps)
        (fun p => (p.commissionBps, cut amountNano p.commissionBps)) (some direct)
        (((direct, p) :: rest).take 10) ↔ _ :=
      agrees_iff hrank f.checked 10 (.row found above) hbelow rfl hgross
        (fun id hid p' hp' => by
          cases hid
          cases found.symm.trans hp'
          rfl)
    have hplan : computeConservedCommissionChain (((direct, p) :: rest).take 10) amountNano
        occurredAt = conservedFrom occurredAt 0 p.commissionBps
          (cut amountNano p.commissionBps) (((direct, p) :: rest).take 10) := by
      rw [take_succ_cons, computeConservedCommissionChain]
      split
      · next hstop =>
        have hout : eligible occurredAt p = false :=
          (hstop.resolve_left (Int.not_le.mpr hamount)).resolve_right (Int.not_le.mpr hgross)
        simp [conservedFrom, hout]
      · rfl
    have hassert : ∀ e : ConservedEntry, 0 ≤ e.level → e.level < 10 →
        assertConservedCommissionEntry f.partners direct amountNano occurredAt e =
          assertFrom f.partners (1000 * occurredAt) e 10 [] 0
            (fun p => (p.commissionBps, cut amountNano p.commissionBps)) (some direct) := by
      intro e hle hlt
      exact if_neg (by omega)
    refine Iff.trans ?_ (hagrees.trans ⟨fun h _ _ => h, fun h => h hamount hgross⟩)
    constructor
    · rintro ⟨chain, entries, hchain, hcompute, -, -, -, hall⟩
      obtain rfl := Except.ok.inj (hload.symm.trans hchain)
      exact ⟨entries, hplan ▸ hcompute, fun e hle hlt => hassert e hle hlt ▸ hall e⟩
    · rintro ⟨entries, hcompute, hall⟩
      obtain ⟨hlevels, hlength, hsum⟩ := conservedFrom_spec hcompute hgross
      refine ⟨_, entries, hload, hplan ▸ hcompute, fun e he => (hlevels e he).2.2, ?_, hlength,
        fun e => ?_⟩
      · split at hsum
        · exact .inr ⟨p, found, hsum⟩
        · next hclosed =>
          left
          rw [take_succ_cons, conservedFrom, if_neg (by simpa using hclosed)] at hcompute
          exact (Except.ok.inj hcompute).symm
      · by_cases hlevel : 0 ≤ e.level ∧ e.level < 10
        · rw [hassert e hlevel.1 hlevel.2]
          exact hall e hlevel.1 hlevel.2
        · refine iff_of_false ?_ fun he => hlevel ⟨(hlevels e he).1, (hlevels e he).2.1⟩
          rw [assertConservedCommissionEntry, if_pos (by omega)]
          exact Bool.false_ne_true

/-! ## A share of thirty per cent -/

/-- Two active partners; the parent hands the default share of `bps` down. -/
def pairForest (bps : Nat) : Table String ChainPartner :=
  (Table.empty.put "parent" ⟨.active, 1000, bps, none, none, true, some 0⟩).put "child"
    ⟨.active, 1000, 1000, some "parent", none, true, some 0⟩

theorem pairForest_find (bps : Nat) (id : String) : (pairForest bps).find? id =
    if id = "child" then some ⟨.active, 1000, 1000, some "parent", none, true, some 0⟩
    else if id = "parent" then some ⟨.active, 1000, bps, none, none, true, some 0⟩ else none := by
  simp only [pairForest, find?_put, find?_empty, @eq_comm _ id]

/-- Checked rows, in which the default share is too high for a chain. -/
theorem high_default_not_conserved :
    ¬ ∀ (f : Forest) direct amountNano occurredAt, f.Conserved direct amountNano occurredAt := by
  intro hall
  have hchecked : ∀ id p, (pairForest 3000).find? id = some p → p.check = true := by
    intro id p h
    rw [pairForest_find] at h
    split at h
    · cases h
      decide
    · split at h
      · cases h
        decide
      · cases h
  have hacyclic : Descent.Acyclic ChainPartner.parentPartnerId (pairForest 3000) := by
    refine ⟨fun id => if id = "child" then 1 else 0, ?_⟩
    rintro k c ⟨p, h, hlink⟩
    rw [pairForest_find] at h
    split at h
    · next hc =>
      cases h
      cases hlink
      subst hc
      decide
    · split at h
      · cases h
        cases hlink
      · cases h
  obtain ⟨chain, entries, hload, hplan, -⟩ :=
    hall ⟨pairForest 3000, hchecked, hacyclic⟩ "child" 1000000 0
  cases (show loadCommissionChain (pairForest 3000) "child" = .ok _ from rfl).symm.trans hload
  cases (show computeConservedCommissionChain _ 1000000 0 = .error () from rfl).symm.trans hplan

/-- A partner whose program starts a microsecond after the source. -/
def lateForest : Forest where
  partners := Table.empty.put "late" ⟨.active, 1000, 1000, none, none, true, some 1⟩
  checked id p h := by
    rw [find?_put] at h
    split at h
    · cases h
      decide
    · cases h
  acyclic := by
    refine ⟨fun _ => 0, ?_⟩
    rintro k c ⟨p, h, hlink⟩
    rw [find?_put] at h
    split at h
    · cases h
      cases hlink
    · cases h

/-- The program pays it, and the trigger refuses the row. -/
theorem late_start_not_conserved : ¬ lateForest.Conserved "late" 1000000 0 := by
  rintro ⟨chain, entries, hload, hplan, -, -, -, hagree⟩
  cases (show loadCommissionChain lateForest.partners "late" = .ok _ from rfl).symm.trans hload
  cases (show computeConservedCommissionChain _ 1000000 0 = .ok _ from rfl).symm.trans hplan
  exact absurd ((hagree _).mpr (.head _)) (by decide)

end ApiToken.Team
