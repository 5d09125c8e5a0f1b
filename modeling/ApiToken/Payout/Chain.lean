import Mathlib.Data.List.Basic

/-!
# The chain

The hot wallet's transactions on chain and what the read providers show of
them. A transaction takes the next nonce of the wallet when it is mined, so
the mined transactions form a list indexed by nonce. A transfer can be mined
at any time after a broadcast of it was attempted, once its nonce is the next
one; it may revert, which takes the nonce without moving money. A provider
shows a prefix of the list, which only grows.
-/

namespace ApiToken.Payout

/-- A signed USDT transfer (`signTransfer`). Signing is deterministic in
these fields and hashes do not collide, so a hash and a raw transaction stand
for the same thing. -/
structure Transfer where
  recipient : String
  amountNano : Int
  nonce : Nat
  gasPrice : Nat
deriving DecidableEq

/-- What took one nonce of the hot wallet. -/
inductive Mined where
  | own (t : Transfer) (ok : Bool)
  | other
deriving DecidableEq

structure Chain where
  /-- By nonce. -/
  mined : List Mined
  /-- Transfers whose broadcast was attempted. -/
  attempted : List Transfer
  /-- How much of `mined` each read provider shows. -/
  views : List Nat

def Chain.Landed (c : Chain) (t : Transfer) : Prop :=
  c.mined[t.nonce]? = some (.own t true)

instance (c : Chain) (t : Transfer) : Decidable (c.Landed t) :=
  inferInstanceAs (Decidable (_ = _))

def Chain.Dead (c : Chain) (t : Transfer) : Prop :=
  ∃ m, c.mined[t.nonce]? = some m ∧ m ≠ .own t true

instance (c : Chain) (t : Transfer) : Decidable (c.Dead t) :=
  match h : c.mined[t.nonce]? with
  | none => .isFalse (by rintro ⟨m, hm, -⟩; rw [h] at hm; cases hm)
  | some m => decidable_of_iff (m ≠ .own t true) (by simp [Chain.Dead, h])

/-- What provider `p` shows. -/
def Chain.view (c : Chain) (p : Nat) : List Mined :=
  c.mined.take (c.views.getD p 0)

/-- `getTransactionReceipt`: was the transfer mined, and did it succeed? -/
def receipt (view : List Mined) (t : Transfer) : Option Bool :=
  match view[t.nonce]? with
  | some (.own t' ok) => if t' = t then some ok else none
  | _ => none

def Chain.mine (c : Chain) (t : Transfer) (ok : Bool) : Chain :=
  if t ∈ c.attempted ∧ t.nonce = c.mined.length then
    { c with mined := c.mined ++ [.own t ok] }
  else c

def Chain.mineOther (c : Chain) : Chain :=
  { c with mined := c.mined ++ [.other] }

/-- A provider catches up. -/
def Chain.sync (c : Chain) (p v : Nat) : Chain :=
  if c.views.getD p 0 ≤ v then { c with views := c.views.set p v } else c

def Chain.attempt (c : Chain) (t : Transfer) : Chain :=
  { c with attempted := t :: c.attempted }

/-! ## What does not change -/

/-- `c'` has all that `c` has mined, at the same nonces. -/
def Chain.Extends (c c' : Chain) : Prop :=
  ∃ more, c'.mined = c.mined ++ more

variable {c c' : Chain} {t : Transfer}

theorem Chain.Extends.mined (h : c.Extends c') {n : Nat} {m : Mined}
    (hm : c.mined[n]? = some m) : c'.mined[n]? = some m := by
  obtain ⟨more, hmore⟩ := h
  have hlt : n < c.mined.length := (List.getElem?_eq_some_iff.mp hm).1
  rw [hmore, List.getElem?_append_left hlt]
  exact hm

theorem Chain.Dead.mono (ht : c.Dead t) (h : c.Extends c') : c'.Dead t := by
  obtain ⟨m, hm, hne⟩ := ht
  exact ⟨m, h.mined hm, hne⟩

theorem Chain.Landed.mono (ht : c.Landed t) (h : c.Extends c') : c'.Landed t :=
  h.mined ht

theorem Chain.Dead.not_landed (ht : c.Dead t) : ¬ c.Landed t := by
  obtain ⟨m, hm, hne⟩ := ht
  intro hland
  rw [Chain.Landed, hm] at hland
  exact hne (Option.some.inj hland)

theorem Chain.Extends.refl (c : Chain) : c.Extends c :=
  ⟨[], (List.append_nil _).symm⟩

theorem extends_mine (c : Chain) (t : Transfer) (ok : Bool) : c.Extends (c.mine t ok) := by
  unfold Chain.mine
  split
  · exact ⟨_, rfl⟩
  · exact .refl c

theorem extends_mineOther (c : Chain) : c.Extends c.mineOther := ⟨_, rfl⟩

theorem extends_sync (c : Chain) (p v : Nat) : c.Extends (c.sync p v) := by
  unfold Chain.sync
  split
  · exact ⟨[], (List.append_nil _).symm⟩
  · exact .refl c

theorem extends_attempt (c : Chain) (t : Transfer) : c.Extends (c.attempt t) :=
  ⟨[], (List.append_nil _).symm⟩

/-! ## What a provider proves -/

theorem getElem?_view {p n : Nat} {m : Mined} (h : (c.view p)[n]? = some m) :
    c.mined[n]? = some m := by
  unfold Chain.view at h
  rw [List.getElem?_take] at h
  split at h
  · exact h
  · cases h

theorem landed_of_receipt {p : Nat} (h : receipt (c.view p) t = some true) : c.Landed t := by
  unfold receipt at h
  split at h
  · rename_i t' ok hview
    split at h
    · rename_i heq
      subst heq
      cases h
      exact getElem?_view hview
    · cases h
  · cases h

theorem dead_of_receipt {p : Nat} (h : receipt (c.view p) t = some false) : c.Dead t := by
  unfold receipt at h
  split at h
  · rename_i t' ok hview
    split at h
    · rename_i heq
      subst heq
      cases h
      exact ⟨_, getElem?_view hview, by simp⟩
    · cases h
  · cases h

theorem dead_of_count {p : Nat} (hcount : t.nonce < (c.view p).length)
    (habsent : receipt (c.view p) t = none) : c.Dead t := by
  obtain ⟨m, hm⟩ : ∃ m, (c.view p)[t.nonce]? = some m := ⟨_, List.getElem?_eq_getElem hcount⟩
  refine ⟨m, getElem?_view hm, ?_⟩
  rintro rfl
  simp [receipt, hm] at habsent

end ApiToken.Payout
