import ApiToken.Registry.FloorLaw
import ApiToken.Registry.Topup

/-!
# A top-up happens once

Whatever the order of the statements, a reference changes the books at most
once, by the amount of its first call, and a call that asks for something else
fails. An exact replay is answered with the recorded balance, with one exception
in each store. PostgreSQL answers the index's error to a duplicate that looked
the reference up before it was committed. SQLite writes the account before it
meets the conflict, so it fails where the amount does not fit a second time.
-/

namespace ApiToken.Registry

open Calls

variable {id : String} {x y : Topup × Stage Phase Answer} {sid' : Nat} {phase : Phase}

/-! ## What is recorded -/

section Recorded

variable {b : Books} {c : Topup} {reference : Option String} {row : LedgerRow}

theorem recorded_mem (h : b.recorded reference = some row) :
    row ∈ b.ledger ∧ row.kind ≠ .charge ∧ ∃ r, reference = some r ∧ row.ref = some r := by
  obtain ⟨r, rfl, hfind⟩ := bind_eq_some_iff.mp h
  have hrow := find?_some hfind
  simp only [guard_iffs, bne_iff_ne] at hrow
  exact ⟨mem_of_find?_eq_some hfind, hrow.1, r, rfl, hrow.2⟩

theorem topupRow_kind (c : Topup) (balance : Int) :
    (topupRow c.ts c.id c.amountNano c.reference balance).kind ≠ .charge := by
  unfold topupRow
  dsimp only
  split <;> nofun

theorem exact_topupRow (c : Topup) (balance : Int) :
    c.exact (topupRow c.ts c.id c.amountNano c.reference balance) = true := by
  simp [Topup.exact, topupRow]

theorem recorded_record (h : b.recorded reference = some row) (account : Account) :
    (b.record c account).recorded reference = some row := by
  obtain ⟨r, rfl, hfind⟩ := bind_eq_some_iff.mp h
  exact bind_eq_some_iff.mpr ⟨r, rfl, by
    rw [moneyRef?, Books.record, List.find?_append]
    rw [moneyRef?] at hfind
    rw [hfind, some_or]⟩

theorem recorded_record_self {r : String} (hr : c.reference = some r)
    (h : b.recorded c.reference = none) (account : Account) :
    (b.record c account).recorded c.reference =
      some (topupRow c.ts c.id c.amountNano c.reference account.balanceNano) := by
  have hkind := topupRow_kind c account.balanceNano
  rw [Books.recorded, hr, bind_some, moneyRef?] at h ⊢
  rw [Books.record, List.find?_append, h, none_or, List.find?_cons_of_pos]
  · rw [hr]
  · simp only [guard_iffs, bne_iff_ne]
    exact ⟨hkind, hr⟩

theorem recorded_record_other (hne : reference ≠ c.reference) (account : Account) :
    (b.record c account).recorded reference = b.recorded reference := by
  cases reference with
  | none => rfl
  | some =>
    rw [Books.recorded, bind_some, moneyRef?, Books.record, List.find?_append,
      List.find?_cons_of_neg, List.find?_nil, Option.or_none]
    · rfl
    · simp only [guard_iffs, not_and]
      exact fun _ hsame => hne hsame.symm

theorem recorded_changed (b : Books) (locked : String → Bool) (o : Change)
    (reference : Option String) :
    (b.changed locked o).recorded reference = b.recorded reference := by
  cases reference with
  | none => rfl
  | some r =>
    have hnone : (o.rows.filter (·.kind == .charge)).find?
        (fun row => row.kind != .charge && row.ref == some r) = none := by
      simp only [List.find?_eq_none, mem_filter, guard_iffs, bne_iff_ne, not_and, and_imp]
      exact fun row _ hcharge hkind => absurd hcharge hkind
    rw [Books.recorded, bind_some, moneyRef?, Books.changed, List.find?_append, hnone,
      Option.or_none]
    rfl

theorem replayed_exact (h : c.exact row = true) (conflict : String) :
    c.replayed row conflict = .ok (some row.balanceAfterNano) := by
  rw [Topup.replayed, if_pos h]

theorem replayed_other (h : c.exact row = false) (conflict : String) :
    c.replayed row conflict = .error (.bail conflict) := by
  rw [Topup.replayed, h, if_neg Bool.false_ne_true]

end Recorded

/-! ## Books in order -/

/-- Every row of a top-up is of an account that exists, under a reference that
is not blank. -/
structure Books.Kept (b : Books) : Prop where
  owned : ∀ row ∈ b.ledger, row.kind ≠ .charge → (b.accounts.find? row.accountId).isSome
  named : ∀ row ∈ b.ledger, row.kind ≠ .charge → row.ref.any blank = false

section Kept

variable {b : Books} {c : Topup} {account : Account} {locked : String → Bool} {o : Change}

theorem Books.Kept.record (h : b.Kept) (hname : c.reference.any blank = false) :
    (b.record c account).Kept where
  owned row hrow hkind := by
    rw [Books.record, find?_put]
    split
    · rfl
    · rename_i hne
      rcases mem_append.mp hrow with hrow | hrow
      · exact h.owned row hrow hkind
      · rw [mem_singleton] at hrow
        exact absurd (by rw [hrow]; rfl) hne
  named row hrow hkind := by
    rcases mem_append.mp hrow with hrow | hrow
    · exact h.named row hrow hkind
    · rw [mem_singleton] at hrow
      rw [hrow]
      exact hname

theorem changed_locked (h : locked id = true) :
    (b.changed locked o).accounts.find? id = b.accounts.find? id := by
  unfold Books.changed
  dsimp only
  generalize b.accounts = accounts
  induction o.accounts generalizing accounts with
  | nil => rfl
  | cons x rest ih =>
    rw [foldl_cons, ih]
    split
    · rfl
    · rename_i hfree
      exact find?_put_ne _ _ fun hsame => hfree (hsame ▸ h)

theorem changed_isSome (h : (b.accounts.find? id).isSome) :
    ((b.changed locked o).accounts.find? id).isSome := by
  unfold Books.changed
  dsimp only
  generalize b.accounts = accounts at h
  induction o.accounts generalizing accounts with
  | nil => exact h
  | cons _ _ ih =>
    rw [foldl_cons]
    refine ih _ ?_
    split
    · exact h
    · rw [find?_put]
      split
      · rfl
      · exact h

theorem Books.Kept.changed (h : b.Kept) : (b.changed locked o).Kept where
  owned row hrow hkind := by
    rcases mem_append.mp hrow with hrow | hrow
    · exact changed_isSome (h.owned row hrow hkind)
    · simp only [mem_filter, beq_iff_eq] at hrow
      exact absurd hrow.2 hkind
  named row hrow hkind := by
    rcases mem_append.mp hrow with hrow | hrow
    · exact h.named row hrow hkind
    · simp only [mem_filter, beq_iff_eq] at hrow
      exact absurd hrow.2 hkind

theorem Books.Kept.found {row : LedgerRow} (h : b.Kept)
    (hrow : b.recorded c.reference = some row) (hexact : c.exact row = true) :
    ∃ account, b.accounts.find? c.id = some account := by
  obtain ⟨hmem, hkind, -⟩ := recorded_mem hrow
  simp only [Topup.exact, guard_iffs] at hexact
  have howned := h.owned row hmem hkind
  rw [hexact.1.1] at howned
  exact isSome_iff_exists.mp howned

theorem Books.Kept.not_blank {row : LedgerRow} (h : b.Kept)
    (hrow : b.recorded c.reference = some row) : c.reference.any blank = false := by
  obtain ⟨hmem, hkind, r, hr, href⟩ := recorded_mem hrow
  rw [hr, ← href]
  exact h.named row hmem hkind

end Kept

/-! ## At most once -/

section Once

variable {φ : Type} (C : Code Books Topup φ Answer Change) (w : World Books Topup φ Answer)
  (e : Event Topup Change)

def Changes (r : String) : Prop :=
  ∃ c phase b stage, Takes C w e c phase b stage ∧ c.reference = some r ∧ b ≠ w.shared

/-- What the event may do, if it is a step of a call. -/
structure Proper : Prop where
  /-- A change is one of the balance by the amount, recorded and answered. -/
  applies : ∀ c phase b stage, Takes C w e c phase b stage → b ≠ w.shared →
    ∃ account, w.shared.accounts.find? c.id = some account ∧
      b = w.shared.record c
        { account with balanceNano := account.balanceNano + c.amountNano } ∧
      stage = .answered (.ok (some (account.balanceNano + c.amountNano)))
  /-- An exact replay is answered with what is recorded. -/
  replays : ∀ c phase b answer row, Takes C w e c phase b (.answered answer) →
    b.recorded c.reference = some row → c.exact row = true →
    answer = .ok (some row.balanceAfterNano)
  /-- Under a reference of another operation, nothing changes and no balance is
  answered. -/
  conflicts : ∀ c phase b stage row, Takes C w e c phase b stage →
    b.recorded c.reference = some row → c.exact row = false →
    b = w.shared ∧ ∀ balance, stage ≠ .answered (.ok (some balance))

variable {C}

/-- The invariant of a store's top-ups, and what one step of them does. -/
structure Serial (C : Code Books Topup φ Answer Change)
    (I : World Books Topup φ Answer → Prop) : Prop where
  keeps : Keeps C I
  step : ∀ w sid c phase b stage, I w → w.calls.find? sid = some (c, .running phase) →
    C.step w sid c phase = some (b, stage) → b = w.shared ∨
      w.shared.recorded c.reference = none ∧
      ∃ account, w.shared.accounts.find? c.id = some account ∧
        b = w.shared.record c
          { account with balanceNano := account.balanceNano + c.amountNano } ∧
        stage = .answered (.ok (some (account.balanceNano + c.amountNano)))
  other : ∀ w o, ∃ locked, C.other w o = w.shared.changed locked o

variable {I : World Books Topup φ Answer → Prop} {w}

theorem Serial.recorded (h : Serial C I) (hw : I w) {reference : Option String}
    (hrow : (w.shared.recorded reference).isSome) :
    ((Calls.exec C w e).shared.recorded reference).isSome := by
  obtain ⟨row, hrow⟩ := isSome_iff_exists.mp hrow
  refine isSome_iff_exists.mpr ⟨row, ?_⟩
  cases e with
  | start sid =>
    cases hfree : w.calls.find? sid with
    | none | some taken => simpa only [Calls.exec, hfree] using hrow
  | step sid =>
    rcases hrunning : w.calls.find? sid with _ | ⟨c, phase | answer⟩
    · simpa only [Calls.exec, hrunning] using hrow
    · rcases hstep : C.step w sid c phase with _ | ⟨b, stage⟩
      · simpa only [Calls.exec, hrunning, hstep] using hrow
      · simp only [Calls.exec, hrunning, hstep]
        rcases h.step w sid c phase b stage hw hrunning hstep with
          rfl | ⟨-, account, -, rfl, -⟩
        · exact hrow
        · exact recorded_record hrow _
    · simpa only [Calls.exec, hrunning] using hrow
  | abort => exact hrow
  | other o =>
    obtain ⟨locked, hlocked⟩ := h.other w o
    simp only [Calls.exec, hlocked, recorded_changed]
    exact hrow

theorem Serial.once (h : Serial C I) (r : String) (hw : I w)
    (events : List (Event Topup Change)) :
    AtMostOnce (Calls.exec C) (fun w e => Changes C w e r) w events := by
  refine atMostOnce_of_mark (I := I) (M := fun w => (w.shared.recorded (some r)).isSome)
    h.keeps.exec (fun w e hw hrow => h.recorded e hw hrow) ?_ hw events
  rintro w e hw ⟨c, phase, b, stage, htakes, hr, hne⟩
  rw [exec_of_takes htakes]
  obtain ⟨sid, rfl, hrunning, hstep⟩ := htakes
  rcases h.step w sid c phase b stage hw hrunning hstep with hsame | ⟨hfree, account, -, rfl, -⟩
  · exact absurd hsame hne
  · refine ⟨?_, ?_⟩
    · rw [← hr, hfree]
      exact Bool.false_ne_true
    · rw [← hr, recorded_record_self hr hfree]
      rfl

theorem Serial.applies (h : Serial C I) (hw : I w) {c : Topup} {phase : φ} {b : Books}
    {stage : Stage φ Answer} (htakes : Takes C w e c phase b stage) (hne : b ≠ w.shared) :
    ∃ account, w.shared.accounts.find? c.id = some account ∧
      b = w.shared.record c { account with balanceNano := account.balanceNano + c.amountNano } ∧
      stage = .answered (.ok (some (account.balanceNano + c.amountNano))) := by
  obtain ⟨sid, -, hrunning, hstep⟩ := htakes
  exact ((h.step w sid c phase b stage hw hrunning hstep).resolve_left hne).2

end Once

/-! ## PostgreSQL -/

namespace Postgres

structure CallOk (b : Books) (x : Topup × Stage Phase Answer) : Prop where
  named : ∀ phase, x.2 = .running phase → phase ≠ .begun → x.1.reference.any blank = false
  /-- The row it has written is the committed one with the amount added. -/
  row : ∀ account, written x.2 = some account → ∃ before,
    b.accounts.find? x.1.id = some before ∧
      account = { before with balanceNano := before.balanceNano + x.1.amountNano }
  unclaimed : claims x.2 = true → b.recorded x.1.reference = none

/-- Two calls hold no row and no reference in common. -/
structure Apart (x y : Topup × Stage Phase Answer) : Prop where
  rows : (written x.2).isSome → (written y.2).isSome → x.1.id ≠ y.1.id
  references : claims x.2 = true → claims y.2 = true → x.1.reference.isSome →
    x.1.reference ≠ y.1.reference

/-- The invariant. -/
structure Inv (w : Flight) : Prop where
  kept : w.shared.Kept
  calls : ∀ sid x, w.calls.find? sid = some x → CallOk w.shared x
  apart : ∀ sid x sid' y, w.calls.find? sid = some x → w.calls.find? sid' = some y →
    sid ≠ sid' → Apart x y

variable {w : Flight} {sid : Nat} {c : Topup}

theorem Apart.symm (h : Apart x y) : Apart y x where
  rows hy hx hsame := h.rows hx hy hsame.symm
  references hy hx hsome hsame := h.references hx hy (hsame ▸ hsome) hsame.symm

theorem Apart.of_free (hrow : written x.2 = none) (hclaims : claims x.2 = false) :
    Apart x y where
  rows hx := by
    rw [hrow] at hx
    cases hx
  references hx := by
    rw [hclaims] at hx
    cases hx

theorem Inv.put (h : Inv w) (hok : CallOk w.shared x)
    (hapart : ∀ sid' y, w.calls.find? sid' = some y → sid ≠ sid' → Apart x y) :
    Inv { w with calls := w.calls.put sid x } where
  kept := h.kept
  calls sid' y hy := by
    rcases find?_put_cases hy with ⟨-, rfl⟩ | hy
    · exact hok
    · exact h.calls sid' y hy
  apart sid1 y1 sid2 y2 h1 h2 hne := by
    rw [find?_put] at h1 h2
    split at h1 <;> split at h2
    · rename_i hsid1 hsid2
      exact absurd (hsid1.symm.trans hsid2) hne
    · rename_i hsid1 hsid2
      cases h1
      exact hapart sid2 y2 h2 hsid2
    · rename_i hsid1 hsid2
      cases h2
      exact (hapart sid1 y1 h1 hsid1).symm
    · exact h.apart sid1 y1 sid2 y2 h1 h2 hne

variable {stage : Stage Phase Answer} {b : Books}

theorem Inv.put_free (h : Inv w)
    (hnamed : ∀ phase, stage = .running phase → phase ≠ .begun → c.reference.any blank = false)
    (hrow : written stage = none) (hclaims : claims stage = false) :
    Inv { w with calls := w.calls.put sid (c, stage) } := by
  refine h.put ⟨hnamed, fun account haccount => ?_, fun hclaimed => ?_⟩
    (fun _ _ _ _ => .of_free hrow hclaims)
  · rw [hrow] at haccount
    cases haccount
  · rw [hclaims] at hclaimed
    cases hclaimed

theorem lookUp_cases (b : Books) (c : Topup) :
    (c.reference.any blank = true ∧ ∃ e, lookUp b c = .answered (.error e)) ∨
    (∃ row conflict, b.recorded c.reference = some row ∧
      lookUp b c = .answered (c.replayed row conflict)) ∨
    c.reference.any blank = false ∧ b.recorded c.reference = none ∧
      lookUp b c = .running .missed := by
  unfold lookUp
  cases hblank : c.reference.any blank with
  | true => exact .inl ⟨rfl, _, if_pos rfl⟩
  | false =>
    rw [if_neg Bool.false_ne_true]
    cases hrow : b.recorded c.reference with
    | none => exact .inr (.inr ⟨rfl, rfl, rfl⟩)
    | some row => exact .inr (.inl ⟨row, _, rfl, rfl⟩)

theorem write_cases (b : Books) (c : Topup) :
    (b.accounts.find? c.id = none ∧ write b c = .answered (.ok none)) ∨
    (∃ account e, b.accounts.find? c.id = some account ∧
      ¬ Bigint (account.balanceNano + c.amountNano) ∧ write b c = .answered (.error e)) ∨
    ∃ account, b.accounts.find? c.id = some account ∧
      Bigint (account.balanceNano + c.amountNano) ∧
      write b c = .running (.updated
        { account with balanceNano := account.balanceNano + c.amountNano }) := by
  unfold write
  cases haccount : b.accounts.find? c.id with
  | none => exact .inl ⟨rfl, rfl⟩
  | some account =>
    cases hbalance : bigint (account.balanceNano + c.amountNano) with
    | error e =>
      refine .inr (.inl ⟨account, e, rfl, fun hfits => ?_, by simp only [hbalance]⟩)
      rw [bigint_of hfits] at hbalance
      cases hbalance
    | ok =>
      obtain ⟨hfits, rfl⟩ := bigint_iff_eq.mp hbalance
      exact .inr (.inr ⟨account, rfl, hfits, by simp only [hbalance]⟩)

theorem begun_cases (h : topup.step w sid c .begun = some (b, stage)) :
    b = w.shared ∧ stage = lookUp w.shared c := by
  cases h
  exact ⟨rfl, rfl⟩

theorem update_cases (h : update w sid c = some (b, stage)) :
    rowTaken w sid c.id = false ∧ b = w.shared ∧ stage = write w.shared c := by
  unfold update at h
  split at h
  · cases h
  · rename_i htaken
    cases h
    exact ⟨Bool.eq_false_iff.mpr htaken, rfl, rfl⟩

theorem insert_cases {account : Account} (h : insert w sid c account = some (b, stage)) :
    b = w.shared ∧
      ((w.shared.recorded c.reference).isSome ∧ stage = .answered (.error (.sql "23505")) ∨
      w.shared.recorded c.reference = none ∧ refTaken w sid c.reference = false ∧
        stage = .running (.inserted account)) := by
  unfold insert at h
  cases hrow : w.shared.recorded c.reference with
  | some =>
    rw [hrow, isSome_some, if_pos rfl] at h
    cases h
    exact ⟨rfl, .inl ⟨rfl, rfl⟩⟩
  | none =>
    rw [hrow, isSome_none, if_neg Bool.false_ne_true] at h
    cases htaken : refTaken w sid c.reference with
    | true =>
      rw [htaken, if_pos rfl] at h
      cases h
    | false =>
      rw [htaken, if_neg Bool.false_ne_true] at h
      cases h
      exact ⟨rfl, .inr ⟨rfl, rfl, rfl⟩⟩

theorem rowTaken_false (h : rowTaken w sid c.id = false)
    (hy : w.calls.find? sid' = some y) (hne : sid ≠ sid') (hrow : (written y.2).isSome) :
    c.id ≠ y.1.id := by
  intro hsame
  have hfree := any_eq_false_iff.mp h sid' y hy
  rw [hrow, hsame, bne_iff_ne.mpr hne.symm, beq_self_eq_true] at hfree
  cases hfree

theorem refTaken_false (h : refTaken w sid c.reference = false)
    (hy : w.calls.find? sid' = some y) (hne : sid ≠ sid') (hclaims : claims y.2 = true)
    (hsome : c.reference.isSome) : c.reference ≠ y.1.reference := by
  intro hsame
  unfold refTaken at h
  rw [hsome, Bool.true_and] at h
  have hfree := any_eq_false_iff.mp h sid' y hy
  rw [hclaims, hsame, bne_iff_ne.mpr hne.symm, beq_self_eq_true] at hfree
  cases hfree

theorem topup_other (w : Flight) (o : Change) :
    topup.other w o = w.shared.changed
      (fun id => w.calls.any (fun _ x => x.1.id == id && (written x.2).isSome)) o := rfl

theorem Inv.other (h : Inv w) (o : Change) :
    Inv { w with shared := topup.other w o } where
  kept := by
    dsimp only
    rw [topup_other]
    exact h.kept.changed
  calls sid x hx := by
    have hok := h.calls sid x hx
    refine ⟨hok.named, fun account haccount => ?_, fun hclaims => ?_⟩
    · obtain ⟨before, hbefore, hrow⟩ := hok.row account haccount
      refine ⟨before, ?_, hrow⟩
      rw [← hbefore, topup_other]
      refine changed_locked (any_eq_true_iff.mpr ⟨sid, x, hx, ?_⟩)
      rw [haccount, beq_self_eq_true]
      rfl
    · rw [topup_other, recorded_changed]
      exact hok.unclaimed hclaims
  apart := h.apart

theorem Inv.commit (h : Inv w) {account : Account}
    (hrunning : w.calls.find? sid = some (c, .running (.inserted account))) (answer : Answer) :
    Inv { shared := w.shared.record c account,
          calls := w.calls.put sid (c, .answered answer) } where
  kept := h.kept.record ((h.calls sid _ hrunning).named _ rfl (by simp))
  calls sid' y hy := by
    rw [find?_put] at hy
    split at hy
    · cases hy
      exact ⟨by simp, by rintro _ ⟨⟩, by rintro ⟨⟩⟩
    · rename_i hne
      have hok := h.calls sid' y hy
      have hapart := h.apart sid _ sid' y hrunning hy hne
      refine ⟨hok.named, fun account' haccount' => ?_, fun hclaims => ?_⟩
      · obtain ⟨before, hbefore, hrow⟩ := hok.row account' haccount'
        refine ⟨before, ?_, hrow⟩
        rw [← hbefore]
        exact find?_put_ne _ _ (hapart.rows rfl (by rw [haccount']; rfl))
      · rw [← hok.unclaimed hclaims]
        by_cases hsame : y.1.reference = c.reference
        · cases href : c.reference with
          | none =>
            rw [hsame, href]
            rfl
          | some =>
            have hsome : c.reference.isSome := by
              rw [href]
              rfl
            exact absurd hsame.symm (hapart.references rfl hclaims hsome)
        · exact recorded_record_other hsame _
  apart sid1 y1 sid2 y2 h1 h2 hne := by
    rw [find?_put] at h1 h2
    split at h1
    · cases h1
      exact .of_free rfl rfl
    · split at h2
      · cases h2
        exact (Apart.of_free rfl rfl).symm
      · exact h.apart sid1 y1 sid2 y2 h1 h2 hne

theorem Inv.step (h : Inv w) (hrunning : w.calls.find? sid = some (c, .running phase))
    (hstep : topup.step w sid c phase = some (b, stage)) :
    Inv { shared := b, calls := w.calls.put sid (c, stage) } := by
  cases phase with
  | begun =>
    cases hstep
    rcases lookUp_cases w.shared c with ⟨-, e, hlook⟩ | ⟨row, conflict, -, hlook⟩ |
      ⟨hblank, -, hlook⟩
    · rw [hlook]
      exact h.put_free nofun rfl rfl
    · rw [hlook]
      exact h.put_free nofun rfl rfl
    · rw [hlook]
      exact h.put_free (fun _ _ _ => hblank) rfl rfl
  | missed =>
    have hnamed := (h.calls sid _ hrunning).named _ rfl nofun
    obtain ⟨hfree, rfl, hwrite⟩ := update_cases hstep
    rcases write_cases w.shared c with ⟨-, hanswer⟩ | ⟨_, e, -, -, hanswer⟩ |
      ⟨account, haccount, -, hwritten⟩
    · rw [hwrite, hanswer]
      exact h.put_free nofun rfl rfl
    · rw [hwrite, hanswer]
      exact h.put_free nofun rfl rfl
    · rw [hwrite, hwritten]
      refine h.put ⟨fun _ _ _ => hnamed, fun account' haccount' => ?_, nofun⟩
        fun sid' y hy hne => ⟨fun _ hrow => rowTaken_false hfree hy hne hrow, nofun⟩
      cases haccount'
      exact ⟨account, haccount, rfl⟩
  | updated account =>
    have hok := h.calls sid _ hrunning
    obtain ⟨rfl, ⟨-, rfl⟩ | ⟨hnone, hfree, rfl⟩⟩ := insert_cases hstep
    · exact h.put_free nofun rfl rfl
    · refine h.put ⟨fun _ _ _ => hok.named _ rfl nofun, fun account' haccount' => ?_,
        fun _ => hnone⟩ fun sid' y hy hne => ⟨fun _ hrow => ?_, fun _ hclaims hsome => ?_⟩
      · cases haccount'
        exact hok.row account rfl
      · exact (h.apart sid _ sid' y hrunning hy hne).rows rfl hrow
      · exact refTaken_false hfree hy hne hclaims hsome
  | inserted =>
    cases hstep
    exact h.commit hrunning _

theorem keeps : Keeps topup Inv where
  start _ _ _ h _ := h.put_free (fun _ hphase hne => absurd (by cases hphase; rfl) hne) rfl rfl
  step _ _ _ _ _ _ h hrunning hstep := h.step hrunning hstep
  abort w sid h :=
    { kept := h.kept
      calls := fun sid' x hx => h.calls sid' x (find?_delete.mp hx).1
      apart := fun sid1 x sid2 y hx hy hne =>
        h.apart sid1 x sid2 y (find?_delete.mp hx).1 (find?_delete.mp hy).1 hne }
  other _ o h := h.other o

theorem serial : Serial topup Inv where
  keeps := keeps
  step w sid c phase b stage h hrunning hstep := by
    cases phase with
    | begun =>
      cases hstep
      exact .inl rfl
    | missed => exact .inl (update_cases hstep).2.1
    | updated => exact .inl (insert_cases hstep).1
    | inserted account =>
      cases hstep
      have hok := h.calls sid _ hrunning
      obtain ⟨before, hbefore, hrow⟩ := hok.row account rfl
      dsimp only at hrow
      exact .inr ⟨hok.unclaimed rfl, before, hbefore, by rw [hrow], by rw [hrow]⟩
  other w o := ⟨_, topup_other w o⟩

/-- A duplicate that looked its reference up too early takes the step that
fails: its ledger row meets the index, or its amount does not fit. -/
def Overtaken (w : Flight) (e : Event Topup Change) : Prop :=
  ∃ sid c row, e = .step sid ∧ w.shared.recorded c.reference = some row ∧
    c.exact row = true ∧
    ((∃ account, w.calls.find? sid = some (c, .running (.updated account))) ∨
      w.calls.find? sid = some (c, .running .missed) ∧ rowTaken w sid c.id = false ∧
        ∃ account, w.shared.accounts.find? c.id = some account ∧
          ¬ Bigint (account.balanceNano + c.amountNano))

theorem proper_iff (h : Inv w) (e : Event Topup Change) : Proper topup w e ↔ ¬ Overtaken w e := by
  constructor
  · rintro hproper ⟨sid, c, row, rfl, hrow, hexact, ⟨account, hrunning⟩ |
      ⟨hrunning, hfree, account, haccount, hbig⟩⟩
    · have hstep : topup.step w sid c (.updated account) =
          some (w.shared, .answered (.error (.sql "23505"))) := by
        show insert w sid c account = _
        rw [insert, hrow, isSome_some, if_pos rfl]
      cases hproper.replays c _ _ _ row ⟨sid, rfl, hrunning, hstep⟩ hrow hexact
    · have hstep : topup.step w sid c .missed = some (w.shared, write w.shared c) := by
        show update w sid c = _
        rw [update, hfree, if_neg Bool.false_ne_true]
      rcases write_cases w.shared c with ⟨hnone, -⟩ | ⟨_, e, -, -, hanswer⟩ |
        ⟨account', haccount', hfits, -⟩
      · rw [haccount] at hnone
        cases hnone
      · rw [hanswer] at hstep
        cases hproper.replays c _ _ _ row ⟨sid, rfl, hrunning, hstep⟩ hrow hexact
      · rw [haccount, some.injEq] at haccount'
        exact hbig (haccount' ▸ hfits)
  · intro hnot
    refine ⟨fun c phase b stage htakes hne => serial.applies e h htakes hne, ?_, ?_⟩
    · rintro c phase b answer row ⟨sid, rfl, hrunning, hstep⟩ hrow hexact
      cases phase with
      | begun =>
        obtain ⟨rfl, hlooked⟩ := begun_cases hstep
        rcases lookUp_cases w.shared c with ⟨hblank, -⟩ | ⟨row', conflict, hrow', hlook⟩ |
          ⟨-, hnone, -⟩
        · rw [h.kept.not_blank hrow] at hblank
          cases hblank
        · rw [hrow, some.injEq] at hrow'
          rw [hlook, ← hrow', replayed_exact hexact] at hlooked
          cases hlooked
          rfl
        · rw [hrow] at hnone
          cases hnone
      | missed =>
        obtain ⟨hfree, rfl, hwrite⟩ := update_cases hstep
        rcases write_cases w.shared c with ⟨hnone, -⟩ | ⟨account, e, haccount, hbig, -⟩ |
          ⟨account, -, -, hwritten⟩
        · obtain ⟨account, haccount⟩ := h.kept.found hrow hexact
          rw [haccount] at hnone
          cases hnone
        · exact absurd ⟨sid, c, row, rfl, hrow, hexact, .inr
            ⟨hrunning, hfree, account, haccount, hbig⟩⟩ hnot
        · rw [hwritten] at hwrite
          cases hwrite
      | updated account =>
        obtain ⟨rfl, -⟩ := insert_cases hstep
        exact absurd ⟨sid, c, row, rfl, hrow, hexact, .inl ⟨account, hrunning⟩⟩ hnot
      | inserted =>
        have hfree := (h.calls sid _ hrunning).unclaimed rfl
        cases hstep
        obtain ⟨-, -, r, hr, -⟩ := recorded_mem hrow
        rw [recorded_record_self hr hfree, some.injEq] at hrow
        rw [← hrow]
        rfl
    · rintro c phase b stage row ⟨sid, rfl, hrunning, hstep⟩ hrow hexact
      cases phase with
      | begun =>
        cases hstep
        refine ⟨rfl, fun balance hbalance => ?_⟩
        rcases lookUp_cases w.shared c with ⟨-, e, hlook⟩ | ⟨row', conflict, hrow', hlook⟩ |
          ⟨-, -, hlook⟩
        · rw [hlook] at hbalance
          cases hbalance
        · rw [hrow, some.injEq] at hrow'
          rw [hlook, ← hrow', replayed_other hexact] at hbalance
          cases hbalance
        · rw [hlook] at hbalance
          cases hbalance
      | missed =>
        obtain ⟨-, rfl, rfl⟩ := update_cases hstep
        refine ⟨rfl, fun balance hbalance => ?_⟩
        rcases write_cases w.shared c with ⟨-, hwrite⟩ | ⟨_, e, -, -, hwrite⟩ |
          ⟨_, -, -, hwrite⟩ <;> rw [hwrite] at hbalance <;> cases hbalance
      | updated =>
        obtain ⟨rfl, ⟨-, rfl⟩ | ⟨-, -, rfl⟩⟩ := insert_cases hstep <;> exact ⟨rfl, nofun⟩
      | inserted =>
        have hfree := (h.calls sid _ hrunning).unclaimed rfl
        cases hstep
        obtain ⟨-, -, r, hr, -⟩ := recorded_mem hrow
        rw [recorded_record_self hr hfree, some.injEq] at hrow
        rw [← hrow, exact_topupRow] at hexact
        cases hexact

end Postgres

/-! ## SQLite -/

namespace Sqlite

abbrev Flight := World Books Topup Phase Answer

variable {w : Flight} {sid : Nat} {c : Topup} {b : Books} {stage : Stage Phase Answer}

/-- A call that met a conflict finds the row that it met. -/
structure Inv (w : Flight) : Prop where
  kept : w.shared.Kept
  conflicted : ∀ sid c, w.calls.find? sid = some (c, .running .conflicted) →
    (w.shared.recorded c.reference).isSome

/-- What the transaction comes to. -/
inductive Transacted (b : Books) (c : Topup) : Books × Stage Phase Answer → Prop
  | blank {e} : c.reference.any blank = true → Transacted b c (b, .answered (.error e))
  | absent : b.accounts.find? c.id = none → Transacted b c (b, .answered (.ok none))
  | overflow {account e} : b.accounts.find? c.id = some account →
      ¬ Bigint (account.balanceNano + c.amountNano) → Transacted b c (b, .answered (.error e))
  | conflict {account row} : b.accounts.find? c.id = some account →
      Bigint (account.balanceNano + c.amountNano) → b.recorded c.reference = some row →
      Transacted b c (b, .running .conflicted)
  | recorded {account} : c.reference.any blank = false →
      b.accounts.find? c.id = some account → b.recorded c.reference = none →
      Transacted b c (b.record c
          { account with balanceNano := account.balanceNano + c.amountNano },
        .answered (.ok (some (account.balanceNano + c.amountNano))))

theorem topupTransaction_transacted (b : Books) (c : Topup) :
    Transacted b c (topupTransaction b c) := by
  unfold topupTransaction
  cases hblank : c.reference.any blank with
  | true =>
    rw [if_pos rfl]
    exact .blank hblank
  | false =>
    rw [if_neg Bool.false_ne_true]
    cases haccount : b.accounts.find? c.id with
    | none => exact .absent haccount
    | some account =>
      dsimp only
      cases hbalance : getI64 (account.balanceNano + c.amountNano) with
      | error =>
        refine .overflow haccount fun hfits => ?_
        rw [getI64_iff.mpr ⟨hfits, rfl⟩] at hbalance
        cases hbalance
      | ok =>
        obtain ⟨hfits, rfl⟩ := getI64_iff.mp hbalance
        cases hrow : b.recorded c.reference with
        | none => exact .recorded hblank haccount hrow
        | some => exact .conflict haccount hfits hrow

theorem begun_transacted (h : topup.step w sid c .begun = some (b, stage)) :
    Transacted w.shared c (b, stage) := by
  have hresult : topupTransaction w.shared c = (b, stage) := some.inj h
  rw [← hresult]
  exact topupTransaction_transacted w.shared c

theorem conflicted_cases (h : topup.step w sid c .conflicted = some (b, stage)) :
    b = w.shared ∧ stage = compareStored w.shared c := by
  cases h
  exact ⟨rfl, rfl⟩

theorem compareStored_some {row : LedgerRow} (h : b.recorded c.reference = some row) :
    ∃ conflict, compareStored b c = .answered (c.replayed row conflict) := by
  unfold compareStored
  rw [h]
  exact ⟨_, rfl⟩

theorem topup_other (w : Flight) (o : Change) :
    topup.other w o = w.shared.changed (fun _ => false) o := rfl

theorem Inv.put (h : Inv w)
    (hconflict : stage = .running .conflicted → (w.shared.recorded c.reference).isSome) :
    Inv { w with calls := w.calls.put sid (c, stage) } where
  kept := h.kept
  conflicted sid' c' hrunning := by
    rcases find?_put_cases hrunning with ⟨-, hsame⟩ | hbefore
    · cases hsame
      exact hconflict rfl
    · exact h.conflicted sid' c' hbefore

theorem Inv.step (h : Inv w) (hstep : topup.step w sid c phase = some (b, stage)) :
    Inv { shared := b, calls := w.calls.put sid (c, stage) } := by
  cases phase with
  | conflicted =>
    obtain ⟨rfl, rfl⟩ := conflicted_cases hstep
    refine h.put fun hconflict => ?_
    unfold compareStored at hconflict
    split at hconflict <;> cases hconflict
  | begun =>
    cases begun_transacted hstep with
    | blank | absent | overflow => exact h.put nofun
    | conflict _ _ hrow => exact h.put fun _ => by rw [hrow]; rfl
    | recorded hblank =>
      refine ⟨h.kept.record hblank, fun sid' c' hrunning => ?_⟩
      rcases find?_put_cases hrunning with ⟨-, hsame⟩ | hbefore
      · cases hsame
      · obtain ⟨row, hrow⟩ := isSome_iff_exists.mp (h.conflicted sid' c' hbefore)
        rw [recorded_record hrow]
        rfl

theorem keeps : Keeps topup Inv where
  start _ _ _ h _ := h.put nofun
  step _ _ _ _ _ _ h _ hstep := h.step hstep
  abort _ _ h := ⟨h.kept, fun sid c hx => h.conflicted sid c (find?_delete.mp hx).1⟩
  other w o h := by
    refine ⟨?_, fun sid c hrunning => ?_⟩
    · dsimp only
      rw [topup_other]
      exact h.kept.changed
    · dsimp only
      rw [topup_other, recorded_changed]
      exact h.conflicted sid c hrunning

theorem serial : Serial topup Inv where
  keeps := keeps
  step w sid c phase b stage h _ hstep := by
    cases phase with
    | conflicted => exact .inl (conflicted_cases hstep).1
    | begun =>
      cases begun_transacted hstep with
      | blank | absent | overflow | conflict => exact .inl rfl
      | recorded _ haccount hnone => exact .inr ⟨hnone, _, haccount, rfl, rfl⟩
  other w o := ⟨_, topup_other w o⟩

/-- An exact replay takes its transaction where the amount does not fit the
balance a second time. -/
def Overflows (w : Flight) (e : Event Topup Change) : Prop :=
  ∃ sid c row account, e = .step sid ∧ w.calls.find? sid = some (c, .running .begun) ∧
    w.shared.recorded c.reference = some row ∧ c.exact row = true ∧
    w.shared.accounts.find? c.id = some account ∧
    ¬ Bigint (account.balanceNano + c.amountNano)

theorem proper_iff (h : Inv w) (e : Event Topup Change) : Proper topup w e ↔ ¬ Overflows w e := by
  constructor
  · rintro hproper ⟨sid, c, row, account, rfl, hrunning, hrow, hexact, haccount, hbig⟩
    have htransacted := topupTransaction_transacted w.shared c
    generalize hresult : topupTransaction w.shared c = result at htransacted
    have hstep : topup.step w sid c .begun = some result := congrArg some hresult
    cases htransacted with
    | blank hblank =>
      rw [h.kept.not_blank hrow] at hblank
      cases hblank
    | absent hnone =>
      rw [haccount] at hnone
      cases hnone
    | overflow => cases hproper.replays c _ _ _ row ⟨sid, rfl, hrunning, hstep⟩ hrow hexact
    | conflict haccount' hfits =>
      rw [haccount, some.injEq] at haccount'
      exact hbig (haccount' ▸ hfits)
    | recorded _ _ hnone =>
      rw [hrow] at hnone
      cases hnone
  · intro hnot
    refine ⟨fun c phase b stage htakes hne => serial.applies e h htakes hne, ?_, ?_⟩
    · rintro c phase b answer row ⟨sid, rfl, hrunning, hstep⟩ hrow hexact
      cases phase with
      | conflicted =>
        obtain ⟨rfl, hcompared⟩ := conflicted_cases hstep
        obtain ⟨conflict, hstored⟩ := compareStored_some hrow
        rw [hstored, replayed_exact hexact] at hcompared
        cases hcompared
        rfl
      | begun =>
        cases begun_transacted hstep with
        | blank hblank =>
          rw [h.kept.not_blank hrow] at hblank
          cases hblank
        | absent hnone =>
          obtain ⟨account, haccount⟩ := h.kept.found hrow hexact
          rw [haccount] at hnone
          cases hnone
        | overflow haccount hbig =>
          exact absurd ⟨sid, c, row, _, rfl, hrunning, hrow, hexact, haccount, hbig⟩ hnot
        | recorded _ _ hnone =>
          obtain ⟨-, -, r, hr, -⟩ := recorded_mem hrow
          rw [recorded_record_self hr hnone, some.injEq] at hrow
          rw [← hrow]
          rfl
    · rintro c phase b stage row ⟨sid, rfl, hrunning, hstep⟩ hrow hexact
      cases phase with
      | conflicted =>
        obtain ⟨rfl, rfl⟩ := conflicted_cases hstep
        obtain ⟨conflict, hstored⟩ := compareStored_some hrow
        rw [hstored, replayed_other hexact]
        exact ⟨rfl, nofun⟩
      | begun =>
        cases begun_transacted hstep with
        | blank | absent | overflow | conflict => exact ⟨rfl, nofun⟩
        | recorded _ _ hnone =>
          obtain ⟨-, -, r, hr, -⟩ := recorded_mem hrow
          rw [recorded_record_self hr hnone, some.injEq] at hrow
          rw [← hrow, exact_topupRow] at hexact
          cases hexact

end Sqlite

/-! ## Every run -/

/-- A payment counts once, and each answer says so. -/
structure Idempotent {φ : Type} (C : Code Books Topup φ Answer Change)
    (w : World Books Topup φ Answer) (events : List (Event Topup Change)) : Prop where
  once : ∀ r, AtMostOnce (Calls.exec C) (fun w e => Changes C w e r) w events
  proper : Along (Calls.exec C) (Proper C) w events

theorem Serial.idempotent_iff {φ : Type} {C : Code Books Topup φ Answer Change}
    {I : World Books Topup φ Answer → Prop}
    {D : World Books Topup φ Answer → Event Topup Change → Prop} (h : Serial C I)
    (hiff : ∀ w e, I w → (Proper C w e ↔ D w e)) {w : World Books Topup φ Answer} (hw : I w)
    (events : List (Event Topup Change)) :
    Idempotent C w events ↔ Along (Calls.exec C) D w events := by
  have halong : Along (Calls.exec C) (Proper C) w events ↔ Along (Calls.exec C) D w events :=
    along_congr (P := fun _ => True) (fun w e hw _ => h.keeps.exec w e hw)
      (fun w e hw _ => hiff w e hw) hw (fun _ _ => trivial)
  constructor
  · exact fun hrun => halong.mp hrun.proper
  · exact fun hrun => ⟨fun r => h.once r hw events, halong.mpr hrun⟩

theorem Postgres.inv_start {b : Books} (hb : b.Kept) : Postgres.Inv ⟨b, .empty⟩ where
  kept := hb
  calls _ _ hx := nomatch hx
  apart _ _ _ _ hx := nomatch hx

theorem Sqlite.inv_start {b : Books} (hb : b.Kept) : Sqlite.Inv ⟨b, .empty⟩ where
  kept := hb
  conflicted _ _ hx := nomatch hx

/-- From books in order, in whatever order the statements run: top-ups are
idempotent in PostgreSQL exactly as long as no duplicate is overtaken, and in
SQLite exactly as long as no replay overflows. -/
theorem account_topup_idempotent_iff (b b' : Books) (hb : b.Kept) (hb' : b'.Kept)
    (events events' : List (Event Topup Change)) :
    (Idempotent Postgres.topup ⟨b, .empty⟩ events ↔
      Along (Calls.exec Postgres.topup) (fun w e => ¬ Postgres.Overtaken w e) ⟨b, .empty⟩
        events) ∧ (Idempotent Sqlite.topup ⟨b', .empty⟩ events' ↔
      Along (Calls.exec Sqlite.topup) (fun w e => ¬ Sqlite.Overflows w e) ⟨b', .empty⟩ events') :=
  ⟨Postgres.serial.idempotent_iff (fun _ e h => Postgres.proper_iff h e)
      (Postgres.inv_start hb) events,
    Sqlite.serial.idempotent_iff (fun _ e h => Sqlite.proper_iff h e)
      (Sqlite.inv_start hb') events'⟩

def reported (amountNano ts : Int) : Topup := ⟨ts, "acct", amountNano, some "stripe:1"⟩

def bothEarly : List (Event Topup Change) :=
  [.start 0 (reported 5000000000 1000), .start 1 (reported 5000000000 1001),
    .step 0, .step 1, .step 0, .step 0, .step 0, .step 1]

/-- The second report comes after the first is done. -/
def oneLate (amountNano : Int) : List (Event Topup Change) :=
  [.start 0 (reported amountNano 1000), .step 0, .start 1 (reported amountNano 1001)]

theorem soloStore_kept : soloStore.books.Kept where
  owned _ hrow := absurd hrow not_mem_nil
  named _ hrow := absurd hrow not_mem_nil

/-- Two reports of one payment, overlapping and one after the other. -/
theorem account_topup_idempotent_iff_solo :
    (Idempotent Postgres.topup ⟨soloStore.books, .empty⟩ bothEarly ↔
      Along (Calls.exec Postgres.topup) (fun w e => ¬ Postgres.Overtaken w e)
        ⟨soloStore.books, .empty⟩ bothEarly) ∧
    (Idempotent Sqlite.topup ⟨soloStore.books, .empty⟩ (oneLate 5000000000) ↔
      Along (Calls.exec Sqlite.topup) (fun w e => ¬ Sqlite.Overflows w e)
        ⟨soloStore.books, .empty⟩ (oneLate 5000000000)) :=
  account_topup_idempotent_iff soloStore.books soloStore.books soloStore_kept soloStore_kept
    bothEarly (oneLate 5000000000)

/-- The report that was overtaken is answered the index's error, and one that
would overflow the balance a second time is answered that. -/
theorem account_topup_not_idempotent :
    ¬ Idempotent Postgres.topup ⟨soloStore.books, .empty⟩ (bothEarly ++ [.step 1]) ∧
    ¬ Idempotent Sqlite.topup ⟨soloStore.books, .empty⟩
      (oneLate 6000000000000000000 ++ [.step 1]) := by
  constructor
  · intro h
    have hlast := (along_append.mp h.proper).2.1
    have htakes : Takes Postgres.topup
        (run (Calls.exec Postgres.topup) ⟨soloStore.books, .empty⟩ bothEarly) (.step 1)
        (reported 5000000000 1001)
        (.updated ⟨10000000000, 0, 0, 0, "active"⟩)
        (run (Calls.exec Postgres.topup) ⟨soloStore.books, .empty⟩ bothEarly).shared
        (.answered (.error (.sql "23505"))) :=
      ⟨1, rfl, by decide +kernel, by decide +kernel⟩
    cases hlast.replays _ _ _ _
      (topupRow 1000 "acct" 5000000000 (some "stripe:1") 5000000000) htakes
      (by decide +kernel) (by decide +kernel)
  · intro h
    have hlast := (along_append.mp h.proper).2.1
    have htakes : Takes Sqlite.topup
        (run (Calls.exec Sqlite.topup) ⟨soloStore.books, .empty⟩
          (oneLate 6000000000000000000)) (.step 1) (reported 6000000000000000000 1001) .begun
        (run (Calls.exec Sqlite.topup) ⟨soloStore.books, .empty⟩
          (oneLate 6000000000000000000)).shared
        (.answered (.error (.bail "Invalid column type Real"))) :=
      ⟨1, rfl, by decide +kernel, by decide +kernel⟩
    cases hlast.replays _ _ _ _
      (topupRow 1000 "acct" 6000000000000000000 (some "stripe:1") 6000000000000000000) htakes
      (by decide +kernel) (by decide +kernel)

end ApiToken.Registry
