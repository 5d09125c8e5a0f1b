import ApiToken.Billing.HandoffView

/-!
# One outcome for each reservation

Every step keeps a call's invariant: the writer's, the taking of a command
and the caller's, in that order. From it a committed reservation is claimed
or cancelled, and never both.
-/

namespace ApiToken.Billing

variable {receiving : Bool} {a b : Handoff} {answer : Option Answer} {phase : Phase}
  {pc : WriterPc} {registry : Outcome} {balance : Int}

namespace View

variable {v v' : View} {backend : Backend}

/-! ## The writer's steps -/

/-- What the writer does to a call's state. -/
inductive WriterMove (receiving : Bool) : Handoff → Handoff → Prop where
  | stay (handoff : Handoff) : WriterMove receiving handoff handoff
  | offer : WriterMove receiving .pending .committed
  | fail : WriterMove receiving .pending .failed
  | failCanceled : WriterMove receiving .canceled .failed
  | withdraw (gone : receiving = false) : WriterMove receiving .committed .canceled
  | refund : WriterMove receiving .canceled .refunding
  | finish : WriterMove receiving .refunding .refunded
  | finishCanceled : WriterMove receiving .canceled .refunded

theorem WriterMove.settled (h : WriterMove receiving a b) :
    (a = .claimed ↔ b = .claimed) ∧ (a = .failed → b = .failed) := by
  cases h <;> simp

theorem WriterMove.closed (h : WriterMove receiving a b)
    (hnot : a ≠ .pending ∧ a ≠ .committed) : b ≠ .pending ∧ b ≠ .committed := by
  cases h <;> simp_all

theorem WriterMove.live (h : WriterMove true a b)
    (hlive : a = .pending ∨ a = .committed ∨ a = .failed) :
    b = .pending ∨ b = .committed ∨ b = .failed := by
  cases h <;> simp_all

theorem Settled.move {v' : View} (h : v.Settled answer)
    (hreceiving : v'.call.receiving = v.call.receiving)
    (hmove : WriterMove v.call.receiving v.call.handoff v'.call.handoff) :
    v'.Settled answer := by
  rcases answer with _ | _ | _ | _
  · exact ⟨hreceiving.trans h.1, fun hclaimed => h.2 (hmove.settled.1.mpr hclaimed)⟩
  · exact hmove.settled.2 h
  · exact hmove.settled.2 h
  · exact hmove.settled.1.mp h

theorem CallerAt.move {v' : View} (h : v.CallerAt phase) (hbusy : v.pc ≠ none)
    (hreceiving : v'.call.receiving = v.call.receiving)
    (hmove : WriterMove v.call.receiving v.call.handoff v'.call.handoff) :
    v'.CallerAt phase := by
  cases phase with
  | idle | sending => exact absurd h.2.2.1 hbusy
  | waiting =>
    rw [h.1] at hmove
    exact ⟨hreceiving.trans h.1, hmove.live h.2⟩
  | claiming => exact absurd h.2.2 hbusy
  | guard pc =>
    cases pc with
    | load => exact Settled.move h hreceiving hmove
    | swap => exact ⟨h.1, h.2.1.move hreceiving hmove, h.2.2⟩
    | dispatch => exact ⟨h.1, h.2.1.move hreceiving hmove, hmove.closed h.2.2⟩
  | ended => exact ⟨h.1.move hreceiving hmove, hmove.closed h.2⟩

section

variable (h : v.Sound)
include h

theorem Sound.serving (hpc : v.pc = some pc) : v.Serving pc := by
  have hwriter := h.writer
  rw [WriterSide, hpc] at hwriter
  exact hwriter

theorem Sound.written {c : Call} {next : Option WriterPc} (hpc : v.pc = some pc)
    (hstep : v.call.writerStep backend registry pc = (c, next))
    (hphase : c.phase = v.call.phase) (hreceiving : c.receiving = v.call.receiving)
    (hmove : WriterMove v.call.receiving v.call.handoff c.handoff)
    (hwriter : WriterSide { v with call := c, pc := next }) :
    (v.write backend registry pc).Sound := by
  have hview : v.write backend registry pc = { v with call := c, pc := next } := by
    simp only [View.write, hstep]
  rw [hview]
  refine ⟨hwriter, ?_⟩
  have hcaller := h.caller
  rw [← hphase] at hcaller
  exact hcaller.move (by simp [hpc]) hreceiving hmove

theorem Sound.write_reserve (hpc : v.pc = some .reserve) :
    (v.write backend registry .reserve).Sound := by
  obtain ⟨hopen, hreserves, hreserved⟩ := h.serving hpc
  have hopen' (next : Option WriterPc) : Unanswered { v with pc := next } :=
    ⟨hopen.handoff, hopen.reply, hopen.owed, hopen.cancels⟩
  rcases hreg : registry with (e | _ | balance) | e
  · exact h.written hpc rfl rfl rfl (.stay _) ⟨hopen' _, hreserves, hreserved, nofun⟩
  · exact h.written hpc rfl rfl rfl (.stay _) ⟨hopen' _, hreserves, hreserved, nofun⟩
  · exact h.written hpc rfl rfl rfl (.stay _)
      ⟨⟨hopen.handoff, hopen.reply, hopen.owed, hopen.cancels⟩, hreserves, rfl⟩
  · exact h.written hpc rfl rfl rfl (.stay _)
      ⟨⟨hopen.handoff, hopen.reply, hopen.owed, hopen.cancels⟩, hreserves, hreserved, nofun⟩

theorem Sound.write_refuse {answer : Answer} (hpc : v.pc = some (.refuse answer)) :
    (v.write backend registry (.refuse answer)).Sound := by
  obtain ⟨hopen, hreserves, hreserved, hrefuses⟩ := h.serving hpc
  refine h.written hpc rfl rfl rfl ?_ ⟨rfl, hopen.reply, hreserves, hopen.owed,
    hopen.cancels, hreserved, hrefuses⟩
  rcases hopen.handoff with hpending | ⟨hcanceled, -⟩
  · rw [hpending]; exact .fail
  · rw [hcanceled]; exact .failCanceled

theorem Sound.write_replyRefusal {answer : Answer} (hpc : v.pc = some (.replyRefusal answer)) :
    (v.write backend registry (.replyRefusal answer)).Sound := by
  obtain ⟨hfailed, hreply, hreserves, howed, hcancels, hreserved, hrefuses⟩ := h.serving hpc
  cases hreceiving : v.call.receiving with
  | true =>
    have hstep : v.call.writerStep backend registry (.replyRefusal answer) =
        ({ v.call with reply := .sent answer }, none) := by
      rw [Call.writerStep, if_pos hreceiving]
    refine h.written hpc hstep rfl rfl (.stay _) ?_
    simp only [WriterSide, Resting, hfailed]
    exact ⟨hreserves, howed, hcancels, hreserved, .inr ⟨answer, hrefuses, rfl⟩⟩
  | false =>
    refine h.written hpc (by rw [Call.writerStep, if_neg (by simp [hreceiving])])
      rfl rfl (.stay _) ?_
    simp only [WriterSide, Resting, hfailed]
    exact ⟨hreserves, howed, hcancels, hreserved, .inl hreply⟩

theorem Sound.write_offer (hpc : v.pc = some (.offer balance)) :
    (v.write backend registry (.offer balance)).Sound := by
  obtain ⟨hopen, hreserves, hreserved⟩ := h.serving hpc
  rcases hopen.handoff with hpending | ⟨hcanceled, hgone⟩
  · have hstep : v.call.writerStep backend registry (.offer balance) =
        ({ v.call with handoff := .committed }, some (.reply balance)) := by
      simp only [Call.writerStep, hpending]
    refine h.written hpc hstep rfl rfl ?_ ?_
    · rw [hpending]; exact .offer
    · exact ⟨⟨hreserved, hreserves, hopen.cancels, .inl ⟨rfl, hopen.owed⟩⟩, hopen.reply⟩
  · have hstep : v.call.writerStep backend registry (.offer balance) =
        ({ v.call with reply := .closed }, some .refund) := by
      simp only [Call.writerStep, hcanceled]
    refine h.written hpc hstep rfl rfl (.stay _) ?_
    exact ⟨⟨hgone, hreserves, hopen.owed.trans_le (Nat.zero_le 1)⟩, hcanceled, hopen.cancels⟩

theorem Sound.write_reply (hpc : v.pc = some (.reply balance)) :
    (v.write backend registry (.reply balance)).Sound := by
  obtain ⟨hoffered, hreply⟩ := h.serving hpc
  cases hreceiving : v.call.receiving with
  | true =>
    rcases hoffered.handoff with ⟨hcommitted, howed⟩ | ⟨-, hgone, -⟩
    · have hstep : v.call.writerStep backend registry (.reply balance) =
          ({ v.call with reply := .sent (.ok (some balance)) }, none) := by
        rw [Call.writerStep, if_pos hreceiving]
      refine h.written hpc hstep rfl rfl (.stay _) ?_
      simp only [WriterSide, Resting, hcommitted]
      exact ⟨⟨hoffered.reserved, hoffered.reserves, hoffered.cancels,
        .inl ⟨rfl, howed⟩⟩, balance, rfl⟩
    · rw [hreceiving] at hgone
      cases hgone
  | false =>
    refine h.written hpc (by rw [Call.writerStep, if_neg (by simp [hreceiving])])
      rfl rfl (.stay _) ?_
    exact ⟨⟨hoffered.reserved, hoffered.reserves, hoffered.cancels, hoffered.handoff⟩, hreceiving⟩

theorem Sound.write_withdraw (hpc : v.pc = some .withdraw) :
    (v.write backend registry .withdraw).Sound := by
  obtain ⟨hoffered, hgone⟩ := h.serving hpc
  rcases hoffered.handoff with ⟨hcommitted, howed⟩ | ⟨hcanceled, -, howed⟩
  · have hstep : v.call.writerStep backend registry .withdraw =
        ({ v.call with handoff := .canceled }, some .refund) := by
      rw [Call.writerStep, if_pos hcommitted]
    refine h.written hpc hstep rfl rfl ?_ ?_
    · rw [hcommitted]; exact .withdraw hgone
    · exact ⟨⟨hgone, hoffered.reserves, howed.trans_le (Nat.zero_le 1)⟩, rfl, hoffered.cancels⟩
  · refine h.written hpc (by rw [Call.writerStep, if_neg (by simp [hcanceled])])
      rfl rfl (.stay _) ?_
    exact ⟨⟨hgone, hoffered.reserves, Nat.le_of_eq howed⟩, hcanceled, hoffered.cancels⟩

theorem Sound.write_refunding (hpc : v.pc = some pc)
    (hstep : v.call.writerStep backend registry pc = v.call.refunding)
    (habandoned : v.Abandoned)
    (hhandoff : (v.call.handoff = .canceled ∧ v.call.cancels = 0) ∨
      (v.call.handoff = .refunded ∧ v.call.cancels = 1)) :
    (v.write backend registry pc).Sound := by
  rcases hhandoff with ⟨hcanceled, hcancels⟩ | ⟨hrefunded, hcancels⟩
  · rw [Call.refunding, if_pos hcanceled] at hstep
    refine h.written hpc hstep rfl rfl ?_ ?_
    · rw [hcanceled]; exact .refund
    · exact ⟨⟨habandoned.receiving, habandoned.reserves, habandoned.owed⟩, hcancels, .inr rfl⟩
  · rw [Call.refunding, if_neg (by simp [hrefunded])] at hstep
    refine h.written hpc hstep rfl rfl (.stay _) ?_
    simp only [WriterSide, Resting, hrefunded]
    exact ⟨⟨habandoned.receiving, habandoned.reserves, habandoned.owed⟩, hcancels⟩

theorem Sound.write_refund (hpc : v.pc = some .refund) :
    (v.write backend registry .refund).Sound := by
  obtain ⟨habandoned, hcanceled, hcancels⟩ := h.serving hpc
  cases backend with
  | sqlite => exact h.write_refunding hpc rfl habandoned (.inl ⟨hcanceled, hcancels⟩)
  | postgres =>
    exact h.written hpc rfl rfl rfl (.stay _)
      ⟨⟨habandoned.receiving, habandoned.reserves, habandoned.owed⟩, hcancels, .inl hcanceled⟩

theorem Sound.write_cancel (hpc : v.pc = some .cancel) :
    (v.write backend registry .cancel).Sound := by
  obtain ⟨habandoned, hcancels, hhandoff⟩ := h.serving hpc
  exact h.written hpc rfl rfl rfl (.stay _)
    ⟨⟨habandoned.receiving, habandoned.reserves, habandoned.owed⟩,
      congrArg (· + 1) hcancels, hhandoff⟩

theorem Sound.write_finish (hpc : v.pc = some .finish) :
    (v.write backend registry .finish).Sound := by
  obtain ⟨habandoned, hcancels, hhandoff⟩ := h.serving hpc
  refine h.written hpc rfl rfl rfl ?_
    ⟨⟨habandoned.receiving, habandoned.reserves, habandoned.owed⟩, hcancels⟩
  rcases hhandoff with hcanceled | hrefunding
  · rw [hcanceled]; exact .finishCanceled
  · rw [hrefunding]; exact .finish

theorem Sound.write_step (hpc : v.pc = some pc) : (v.write backend registry pc).Sound := by
  cases pc with
  | reserve => exact h.write_reserve hpc
  | refuse => exact h.write_refuse hpc
  | replyRefusal => exact h.write_replyRefusal hpc
  | offer => exact h.write_offer hpc
  | reply => exact h.write_reply hpc
  | withdraw => exact h.write_withdraw hpc
  | refund => exact h.write_refund hpc
  | cancelReserve =>
    obtain ⟨habandoned, hhandoff⟩ := h.serving hpc
    exact h.write_refunding hpc rfl habandoned hhandoff
  | cancel => exact h.write_cancel hpc
  | finish => exact h.write_finish hpc

end

/-! ## The commands the writer takes -/

theorem Sound.resting (h : v.Sound) (hpc : v.pc = none) : v.Resting := by
  have hwriter := h.writer
  rw [WriterSide, hpc] at hwriter
  exact hwriter

theorem Sound.unanswered_of_reserves (h : v.Sound) (hpc : v.pc = none)
    (hreserves : 0 < v.reserves) :
    v.Unanswered ∧ v.reserves ≤ 1 ∧ v.call.reserved = false := by
  have hrest := h.resting hpc
  unfold Resting at hrest
  split at hrest
  · exact hrest
  · exact absurd hrest.1.reserves (by omega)
  · exact absurd hrest.1 (by omega)
  · rcases hrest with hopen | hoffered
    · exact hopen
    · exact absurd hoffered.reserves (by omega)
  · exact hrest.elim
  · exact absurd hrest.1.reserves (by omega)
  · exact absurd hrest.1 (by omega)

/-- A `CancelReserve` on its way is for a withdrawn offer, or comes after
the refund. -/
theorem Sound.abandoned_of_cancelReserves (h : v.Sound) (hpc : v.pc = none)
    (howed : 0 < v.owed) :
    v.Abandoned ∧ ((v.call.handoff = .canceled ∧ v.call.cancels = 0) ∨
      (v.call.handoff = .refunded ∧ v.call.cancels = 1)) := by
  have hrest := h.resting hpc
  have hoffer : v.Offered → v.Abandoned ∧ v.call.handoff = .canceled := by
    intro hoffered
    rcases hoffered.handoff with ⟨-, hnone⟩ | ⟨hcanceled, hgone, hone⟩
    · omega
    · exact ⟨⟨hgone, hoffered.reserves, Nat.le_of_eq hone⟩, hcanceled⟩
  unfold Resting at hrest
  split at hrest
  · exact absurd hrest.1.owed (by omega)
  · rename_i hcommitted
    rw [(hoffer hrest.1).2] at hcommitted
    cases hcommitted
  · exact absurd hrest.2.1 (by omega)
  · rcases hrest with hopen | hoffered
    · exact absurd hopen.1.owed (by omega)
    · exact ⟨(hoffer hoffered).1, .inl ⟨(hoffer hoffered).2, hoffered.cancels⟩⟩
  · exact hrest.elim
  · rename_i hrefunded
    exact ⟨hrest.1, .inr ⟨hrefunded, hrest.2⟩⟩
  · exact absurd hrest.2.1 (by omega)

/-- A caller that has handed its `Reserve` over, and has not found the
reply, does not look at the writer. -/
theorem CallerAt.taken (h : v.CallerAt phase) (hcall : v'.call = v.call)
    (hsent : v.call.handoff = .pending → v.reserves ≠ 0)
    (hreply : v.call.handoff ≠ .committed) : v'.CallerAt phase := by
  have hsettled : ∀ answer, v.Settled answer → v'.Settled answer := by
    intro answer hanswer
    rcases answer with _ | _ | _ | _ <;> simpa only [Settled, hcall] using hanswer
  cases phase with
  | idle | sending => exact absurd h.2.2.2 (hsent h.1)
  | waiting => simpa only [CallerAt, hcall] using h
  | claiming => exact absurd h.2.1 hreply
  | guard pc =>
    cases pc with
    | load => exact hsettled _ h
    | swap => exact ⟨h.1, hsettled _ h.2.1, h.2.2⟩
    | dispatch => exact ⟨h.1, hsettled _ h.2.1, by rw [hcall]; exact h.2.2⟩
  | ended => exact ⟨hsettled _ h.1, by rw [hcall]; exact h.2⟩

theorem Sound.take_reserve (h : v.Sound) (hpc : v.pc = none)
    (hreserves : 0 < v.reserves) : (v.take .reserve).Sound := by
  obtain ⟨hopen, hone, hreserved⟩ := h.unanswered_of_reserves hpc hreserves
  constructor
  · exact ⟨⟨hopen.handoff, hopen.reply, hopen.owed, hopen.cancels⟩,
      by simp only [take]; omega, hreserved⟩
  · refine h.caller.taken rfl (fun _ => by omega) (fun hcommitted => ?_)
    rcases hopen.handoff with hpending | ⟨hcanceled, -⟩
    · rw [hpending] at hcommitted; cases hcommitted
    · rw [hcanceled] at hcommitted; cases hcommitted

theorem Sound.take_cancelReserve (h : v.Sound) (hpc : v.pc = none)
    (hqueued : 0 < v.cancelReserves) : (v.take .cancelReserve).Sound := by
  obtain ⟨habandoned, hhandoff⟩ := h.abandoned_of_cancelReserves hpc (Nat.add_pos_left hqueued _)
  have hclosed : v.call.handoff ≠ .pending ∧ v.call.handoff ≠ .committed := by
    rcases hhandoff with ⟨hcanceled, -⟩ | ⟨hrefunded, -⟩
    · simp [hcanceled]
    · simp [hrefunded]
  constructor
  · refine ⟨⟨habandoned.receiving, habandoned.reserves, ?_⟩, hhandoff⟩
    have howed := habandoned.owed
    simp only [owed, take] at howed ⊢
    omega
  · exact h.caller.taken rfl (fun hpending => absurd hpending hclosed.1) hclosed.2

/-! ## The caller's steps -/

structure SameOffer (v v' : View) : Prop where
  handoff : v'.call.handoff = v.call.handoff
  reply : v'.call.reply = v.call.reply
  reserved : v'.call.reserved = v.call.reserved
  cancels : v'.call.cancels = v.call.cancels
  pc : v'.pc = v.pc
  reserves : v'.reserves = v.reserves
  owed : v'.owed = v.owed
  receiving : v.call.receiving = false → v'.call.receiving = false
  saw : v.call.SawReservation → v'.call.SawReservation

section

variable (hs : SameOffer v v')
include hs

theorem SameOffer.unanswered (h : v.Unanswered) :
    v'.Unanswered where
  handoff := by
    rw [hs.handoff]
    exact h.handoff.imp_right fun hgone => ⟨hgone.1, hs.receiving hgone.2⟩
  reply := hs.reply.trans h.reply
  owed := hs.owed.trans h.owed
  cancels := hs.cancels.trans h.cancels

theorem SameOffer.offered (h : v.Offered) : v'.Offered where
  reserved := hs.reserved.trans h.reserved
  reserves := hs.reserves.trans h.reserves
  cancels := hs.cancels.trans h.cancels
  handoff := by
    rw [hs.handoff, hs.owed]
    exact h.handoff.imp_right fun hgone => ⟨hgone.1, hs.receiving hgone.2.1, hgone.2.2⟩

theorem SameOffer.abandoned (h : v.Abandoned) :
    v'.Abandoned where
  receiving := hs.receiving h.receiving
  reserves := hs.reserves.trans h.reserves
  owed := hs.owed.trans_le h.owed

theorem SameOffer.serving (h : v.Serving pc) : v'.Serving pc := by
  cases pc with
  | reserve | offer balance =>
    exact ⟨hs.unanswered h.1, hs.reserves.trans h.2.1, hs.reserved.trans h.2.2⟩
  | refuse =>
    exact ⟨hs.unanswered h.1, hs.reserves.trans h.2.1, hs.reserved.trans h.2.2.1, h.2.2.2⟩
  | replyRefusal =>
    simp only [Serving, hs.handoff, hs.reply, hs.reserves, hs.owed, hs.cancels, hs.reserved]
    exact h
  | reply => exact ⟨hs.offered h.1, hs.reply.trans h.2⟩
  | withdraw => exact ⟨hs.offered h.1, hs.receiving h.2⟩
  | refund => exact ⟨hs.abandoned h.1, hs.handoff.trans h.2.1, hs.cancels.trans h.2.2⟩
  | cancelReserve =>
    refine ⟨hs.abandoned h.1, ?_⟩
    rw [hs.handoff, hs.cancels]
    exact h.2
  | cancel | finish =>
    refine ⟨hs.abandoned h.1, hs.cancels.trans h.2.1, ?_⟩
    rw [hs.handoff]
    exact h.2.2

theorem SameOffer.resting (h : v.Resting) : v'.Resting := by
  unfold Resting at h ⊢
  rw [hs.handoff]
  cases hhandoff : v.call.handoff with
  | pending =>
    rw [hhandoff] at h
    exact ⟨hs.unanswered h.1, hs.reserves.trans_le h.2.1, hs.reserved.trans h.2.2⟩
  | committed =>
    rw [hhandoff] at h
    obtain ⟨hoffered, balance, hreply⟩ := h
    exact ⟨hs.offered hoffered, balance, hs.reply.trans hreply⟩
  | claimed =>
    rw [hhandoff] at h
    exact ⟨hs.reserves.trans h.1, hs.owed.trans h.2.1, hs.cancels.trans h.2.2.1, hs.saw h.2.2.2⟩
  | canceled =>
    rw [hhandoff] at h
    rcases h with ⟨hopen, hone, hreserved⟩ | hoffered
    · exact .inl ⟨hs.unanswered hopen, hs.reserves.trans_le hone, hs.reserved.trans hreserved⟩
    · exact .inr (hs.offered hoffered)
  | refunding => rw [hhandoff] at h; exact h
  | refunded =>
    rw [hhandoff] at h
    exact ⟨hs.abandoned h.1, hs.cancels.trans h.2⟩
  | failed =>
    rw [hhandoff] at h
    simp only [hs.reply, hs.reserves, hs.owed, hs.cancels, hs.reserved]
    exact h

theorem SameOffer.writerSide (h : v.WriterSide) : v'.WriterSide := by
  unfold WriterSide at h ⊢
  rw [hs.pc]
  cases hpc : v.pc with
  | none => rw [hpc] at h; exact hs.resting h
  | some => rw [hpc] at h; exact hs.serving h

end

/-- A step of the caller that leaves the byte alone, to a place where no
answer is lost. -/
theorem Sound.goto (h : v.Sound)
    (hundispatched : phase.undispatched = v.call.phase.undispatched)
    (hsaw : v.call.phase.answer = none ∨ phase.answer = v.call.phase.answer)
    (hcaller : v.CallerAt phase) :
    Sound { v with call := { v.call with phase := phase } } := by
  refine ⟨?_, hcaller⟩
  have hs : SameOffer v { v with call := { v.call with phase := phase } } :=
    { handoff := rfl, reply := rfl, reserved := rfl, cancels := rfl, pc := rfl,
      reserves := rfl, owed := congrArg (v.cancelReserves + ·) hundispatched,
      receiving := id, saw := by
        rintro ⟨balance, hanswer⟩
        rcases hsaw with hnone | hsame
        · rw [hnone] at hanswer; cases hanswer
        · exact ⟨balance, hsame.trans hanswer⟩ }
  exact hs.writerSide h.writer

/-- What a caller's step does to its call. -/
inductive CallerStep (c : Call) : Call × Option CmdKind → Prop where
  | stay : CallerStep c (c, none)
  | begin (at_phase : c.phase = .idle) :
      CallerStep c ({ c with phase := .sending }, none)
  | send (at_phase : c.phase = .sending) :
      CallerStep c ({ c with phase := .waiting }, some .reserve)
  | receive (at_phase : c.phase = .waiting) :
      CallerStep c ({ c with phase := c.reply.next }, none)
  | claim (balance : Int) (at_phase : c.phase = .claiming balance) :
      CallerStep c (c.claim balance, none)
  | guard (pc : GuardPc) (answer : Option Answer)
      (at_phase : c.phase = .guard pc answer) :
      CallerStep c (c.guardStep pc answer)
  | drop (at_phase : c.phase = .sending ∨ c.phase = .waiting) :
      CallerStep c ({ c with receiving := false, phase := .guard .load none }, none)

theorem callerStep_cases (c : Call) (act : CallerAct) : CallerStep c (c.callerStep act) := by
  cases act <;> simp only [Call.callerStep] <;> split
  · exact .begin ‹_›
  · exact .stay
  · exact .send ‹_›
  · exact .stay
  · exact .receive ‹_›
  · exact .stay
  · exact .claim _ ‹_›
  · exact .stay
  · exact .guard _ _ ‹_›
  · exact .stay
  · exact .drop (.inl ‹_›)
  · exact .drop (.inr ‹_›)
  · exact .stay

theorem Sound.at (h : v.Sound) (hphase : v.call.phase = phase) : v.CallerAt phase :=
  hphase ▸ h.caller

theorem Sound.send (h : v.Sound) (hphase : v.call.phase = .sending) :
    (v.called ({ v.call with phase := .waiting }, some .reserve)).Sound := by
  obtain ⟨hpending, hreceiving, hpc, hreserves⟩ := h.at hphase
  have hrest := h.resting hpc
  simp only [Resting, hpending] at hrest
  obtain ⟨hopen, -, hreserved⟩ := hrest
  have howed : v.cancelReserves + v.call.phase.undispatched = 0 := hopen.owed
  rw [hphase] at howed
  refine ⟨?_, hreceiving, .inl hpending⟩
  simp only [WriterSide, called, hpc, Resting, hpending, hreserves]
  exact ⟨⟨.inl rfl, hopen.reply, howed, hopen.cancels⟩, Nat.le_refl 1, hreserved⟩

theorem Sound.reply_at_waiting (h : v.Sound) (hphase : v.call.phase = .waiting) :
    v.call.reply = .empty ∨
      (v.pc = none ∧ v.call.handoff = .committed ∧
        ∃ balance, v.call.reply = .sent (.ok (some balance))) ∨
      (v.call.handoff = .failed ∧
        ∃ answer : Answer, answer.Refuses ∧ v.call.reply = .sent answer) := by
  obtain ⟨hreceiving, hlive⟩ := h.at hphase
  have hpresent : ¬ v.Abandoned := fun habandoned => by
    rw [habandoned.receiving] at hreceiving
    cases hreceiving
  cases hpc : v.pc with
  | some pc =>
    have hserving := h.serving hpc
    cases pc with
    | reserve | refuse answer | offer balance => exact .inl hserving.1.reply
    | replyRefusal => exact .inl hserving.2.1
    | reply => exact .inl hserving.2
    | withdraw =>
      rw [hserving.2] at hreceiving
      cases hreceiving
    | refund | cancelReserve | cancel | finish => exact absurd hserving.1 hpresent
  | none =>
    have hrest := h.resting hpc
    rcases hlive with hpending | hcommitted | hfailed
    · simp only [Resting, hpending] at hrest
      exact .inl hrest.1.reply
    · simp only [Resting, hcommitted] at hrest
      exact .inr (.inl ⟨rfl, hcommitted, hrest.2⟩)
    · simp only [Resting, hfailed] at hrest
      rcases hrest.2.2.2.2 with hempty | hsent
      · exact .inl hempty
      · exact .inr (.inr ⟨hfailed, hsent⟩)

theorem Sound.receive (h : v.Sound) (hphase : v.call.phase = .waiting) :
    Sound { v with call := { v.call with phase := v.call.reply.next } } := by
  have hwaiting := h.at hphase
  have hanswer : v.call.phase.answer = none := by rw [hphase]; rfl
  rcases h.reply_at_waiting hphase with hempty | ⟨hpc, hcommitted, balance, hsent⟩ |
    ⟨hfailed, answer, hrefuses, hsent⟩
  · rw [hempty]
    exact h.goto (by rw [hphase]; rfl) (.inl hanswer) hwaiting
  · rw [hsent]
    exact h.goto (by rw [hphase]; rfl) (.inl hanswer) ⟨hwaiting.1, hcommitted, hpc⟩
  · rw [hsent]
    rcases answer with e | _ | balance
    · exact h.goto (by rw [hphase]; rfl) (.inl hanswer) hfailed
    · exact h.goto (by rw [hphase]; rfl) (.inl hanswer) hfailed
    · exact absurd rfl (hrefuses balance)

theorem Sound.claim (h : v.Sound) (hphase : v.call.phase = .claiming balance) :
    Sound { v with call := v.call.claim balance } := by
  obtain ⟨-, hcommitted, hpc⟩ := h.at hphase
  have hrest := h.resting hpc
  simp only [Resting, hcommitted] at hrest
  obtain ⟨hoffered, -⟩ := hrest
  have howed : v.cancelReserves + v.call.phase.undispatched = 0 := by
    rcases hoffered.handoff with ⟨-, hnone⟩ | ⟨hcanceled, -⟩
    · exact hnone
    · rw [hcommitted] at hcanceled; cases hcanceled
  rw [hphase] at howed
  rw [Call.claim, if_pos hcommitted]
  refine ⟨?_, rfl⟩
  simp only [WriterSide, hpc, Resting]
  exact ⟨hoffered.reserves, howed, hoffered.cancels, balance, rfl⟩

theorem Settled.closed {answer : Answer} (h : v.Settled (some answer)) :
    v.call.handoff ≠ .pending ∧ v.call.handoff ≠ .committed := by
  rcases answer with e | _ | balance <;> simp [Settled] at h <;> simp [h]

theorem WriterSide.cancel_pending (h : v.WriterSide) (hv : v' = { v with
      call := { v.call with handoff := .canceled, phase := phase } })
    (hpending : v.call.handoff = .pending) (hgone : v.call.receiving = false)
    (hundispatched : phase.undispatched = v.call.phase.undispatched) :
    v'.WriterSide := by
  have hopen (hopen : v.Unanswered) : v'.Unanswered := by
    subst hv
    refine ⟨.inr ⟨rfl, hgone⟩, hopen.reply, ?_, hopen.cancels⟩
    rw [← hopen.owed, owed, owed, hundispatched]
  have hoffered : ¬ v.Offered := fun hoffered => by
    rcases hoffered.handoff with ⟨hother, -⟩ | ⟨hother, -⟩
    · rw [hpending] at hother; cases hother
    · rw [hpending] at hother; cases hother
  have hpc : v'.pc = v.pc := by rw [hv]
  have hreserves : v'.reserves = v.reserves := by rw [hv]
  have hreserved : v'.call.reserved = v.call.reserved := by rw [hv]
  unfold WriterSide at h ⊢
  rw [hpc]
  cases hat : v.pc with
  | none =>
    simp only [hat, Resting, hpending] at h
    have hhandoff : v'.call.handoff = .canceled := by rw [hv]
    simp only [Resting, hhandoff, hreserves, hreserved]
    exact .inl ⟨hopen h.1, h.2⟩
  | some pc =>
    simp only [hat] at h
    cases pc with
    | reserve => exact ⟨hopen h.1, hreserves.trans h.2.1, hreserved.trans h.2.2⟩
    | refuse => exact ⟨hopen h.1, hreserves.trans h.2.1, hreserved.trans h.2.2.1, h.2.2.2⟩
    | offer => exact ⟨hopen h.1, hreserves.trans h.2.1, hreserved.trans h.2.2⟩
    | reply balance | withdraw => exact absurd h.1 hoffered
    | _ => simp [Serving, hpending] at h

/-- The swap of `COMMITTED` for `CANCELED`: from here the guard owes a
`CancelReserve`. -/
theorem WriterSide.cancel_committed (h : v.WriterSide) (hv : v' = { v with
      call := { v.call with handoff := .canceled, phase := phase } })
    (hcommitted : v.call.handoff = .committed) (hgone : v.call.receiving = false)
    (hundispatched : phase.undispatched = v.call.phase.undispatched + 1) :
    v'.WriterSide := by
  have hoffered (hoffered : v.Offered) : v'.Offered := by
    subst hv
    refine ⟨hoffered.reserved, hoffered.reserves, hoffered.cancels, .inr ⟨rfl, hgone, ?_⟩⟩
    rcases hoffered.handoff with ⟨-, howed⟩ | ⟨hcanceled, -⟩
    · simp only [owed] at howed ⊢
      omega
    · rw [hcommitted] at hcanceled; cases hcanceled
  have hopen : ¬ v.Unanswered := fun hopen => by
    rcases hopen.handoff with hother | ⟨hother, -⟩
    · rw [hcommitted] at hother; cases hother
    · rw [hcommitted] at hother; cases hother
  have hpc : v'.pc = v.pc := by rw [hv]
  unfold WriterSide at h ⊢
  rw [hpc]
  cases hat : v.pc with
  | none =>
    simp only [hat, Resting, hcommitted] at h
    have hhandoff : v'.call.handoff = .canceled := by rw [hv]
    simp only [Resting, hhandoff]
    exact .inr (hoffered h.1)
  | some pc =>
    simp only [hat] at h
    cases pc with
    | reserve | refuse answer | offer balance => exact absurd h.1 hopen
    | reply balance | withdraw => exact ⟨hoffered h.1, by rw [hv]; exact h.2⟩
    | _ => simp [Serving, hcommitted] at h

theorem Sound.guard_load (h : v.Sound) (hphase : v.call.phase = .guard .load answer) :
    (v.called (v.call.guardStep .load answer)).Sound := by
  have hsettled : v.Settled answer := h.at hphase
  rw [Call.guardStep]
  split
  · rename_i hseen
    refine h.goto (by rw [hphase]; rfl) (.inr (by rw [hphase]; rfl)) ?_
    cases answer with
    | none => exact ⟨rfl, hsettled, hseen⟩
    | some => exact absurd hseen (by simp [hsettled.closed])
  · rename_i hseen
    exact h.goto (by rw [hphase]; rfl) (.inr (by rw [hphase]; rfl)) ⟨hsettled, not_or.mp hseen⟩

theorem Sound.guard_swap (h : v.Sound) {seen : Handoff}
    (hphase : v.call.phase = .guard (.swap seen) answer) :
    (v.called (v.call.guardStep (.swap seen) answer)).Sound := by
  obtain ⟨hnone, hsettled, hseen⟩ := h.at hphase
  subst hnone
  rw [Call.guardStep]
  split
  · rename_i hhandoff
    rcases hseen with hpending | hcommitted
    · subst hpending
      refine ⟨h.writer.cancel_pending rfl hhandoff hsettled.1 ?_, ?_⟩
      · rw [hphase]; rfl
      · exact ⟨⟨hsettled.1, by simp [called]⟩, by simp [called], by simp [called]⟩
    · subst hcommitted
      refine ⟨h.writer.cancel_committed rfl hhandoff hsettled.1 ?_, ?_⟩
      · rw [hphase]; rfl
      · exact ⟨rfl, ⟨hsettled.1, by simp [called]⟩, by simp [called], by simp [called]⟩
  · exact h.goto (by rw [hphase]; rfl) (.inr (by rw [hphase]; rfl)) hsettled

theorem Sound.guard_dispatch (h : v.Sound)
    (hphase : v.call.phase = .guard .dispatch answer) :
    (v.called (v.call.guardStep .dispatch answer)).Sound := by
  obtain ⟨hnone, hsettled, hclosed⟩ := h.at hphase
  subst hnone
  have hs : SameOffer v (v.called (v.call.guardStep .dispatch none)) :=
    { handoff := rfl, reply := rfl, reserved := rfl, cancels := rfl, pc := rfl,
      reserves := rfl, owed := by rw [owed, owed, hphase]; rfl, receiving := id,
      saw := by
        rintro ⟨balance, hanswer⟩
        rw [hphase] at hanswer
        cases hanswer }
  exact ⟨hs.writerSide h.writer, hsettled, hclosed⟩

theorem Sound.drop (h : v.Sound)
    (hphase : v.call.phase = .sending ∨ v.call.phase = .waiting) :
    Sound { v with
      call := { v.call with receiving := false, phase := .guard .load none } } := by
  have hquiet : v.call.phase.undispatched = 0 ∧ v.call.phase.answer = none := by
    rcases hphase with hsending | hwaiting
    · rw [hsending]; exact ⟨rfl, rfl⟩
    · rw [hwaiting]; exact ⟨rfl, rfl⟩
  have hs : SameOffer v { v with
      call := { v.call with receiving := false, phase := .guard .load none } } :=
    { handoff := rfl, reply := rfl, reserved := rfl, cancels := rfl, pc := rfl,
      reserves := rfl, owed := by rw [owed, owed, hquiet.1]; rfl,
      receiving := fun _ => rfl,
      saw := by
        rintro ⟨balance, hanswer⟩
        rw [hquiet.2] at hanswer
        cases hanswer }
  refine ⟨hs.writerSide h.writer, rfl, ?_⟩
  rcases hphase with hsending | hwaiting
  · have hpending := (h.at hsending).1
    simp [hpending]
  · have hlive := (h.at hwaiting).2
    rcases hlive with hpending | hcommitted | hfailed <;> simp [*]

theorem Sound.caller_step (h : v.Sound) (act : CallerAct) :
    (v.called (v.call.callerStep act)).Sound := by
  generalize hnext : v.call.callerStep act = next
  have hcases := callerStep_cases v.call act
  rw [hnext] at hcases
  cases hcases with
  | stay => exact h
  | begin hphase =>
    have hidle : v.CallerAt .idle := h.at hphase
    exact h.goto (by rw [hphase]; rfl) (.inl (by rw [hphase]; rfl)) hidle
  | send hphase => exact h.send hphase
  | receive hphase => exact h.receive hphase
  | claim _ hphase => exact h.claim hphase
  | guard pc _ hphase =>
    cases pc with
    | load => exact h.guard_load hphase
    | swap => exact h.guard_swap hphase
    | dispatch => exact h.guard_dispatch hphase
  | drop hphase => exact h.drop hphase

theorem Sound.step (h : v.Sound) (hstep : Step backend v v') : v'.Sound := by
  cases hstep with
  | other => exact h
  | caller act => exact h.caller_step act
  | take kind hidle hqueued =>
    cases kind with
    | reserve => exact h.take_reserve hidle hqueued
    | cancelReserve => exact h.take_cancelReserve hidle hqueued
  | write _ _ hpc => exact h.write_step hpc

/-! ## What the invariant says -/

theorem Sound.claimed (h : v.Sound) (hsaw : v.call.SawReservation) :
    v.call.handoff = .claimed ∧ v.call.cancels = 0 := by
  obtain ⟨balance, hanswer⟩ := hsaw
  have hcaller := h.caller
  have hclaimed : v.call.handoff = .claimed := by
    cases hphase : v.call.phase with
    | guard pc answer =>
      rw [hphase] at hcaller hanswer
      simp only [Phase.answer] at hanswer
      subst hanswer
      cases pc with
      | load => exact hcaller
      | swap seen | dispatch => cases hcaller.1
    | ended answer =>
      rw [hphase] at hcaller hanswer
      simp only [Phase.answer] at hanswer
      subst hanswer
      exact hcaller.1
    | _ => simp [hphase, Phase.answer] at hanswer
  refine ⟨hclaimed, ?_⟩
  cases hpc : v.pc with
  | none =>
    have hrest := h.resting hpc
    simp only [Resting, hclaimed] at hrest
    exact hrest.2.2.1
  | some pc =>
    have hserving := h.serving hpc
    cases pc with
    | reserve | refuse answer | offer balance | reply balance | withdraw => exact hserving.1.cancels
    | _ => simp [Serving, hclaimed] at hserving

theorem Sound.settled (h : v.Sound) (hphase : v.call.phase = .ended answer)
    (hpc : v.pc = none) (hqueue : v.cancelReserves = 0)
    (hreserved : v.call.reserved = true) :
    (v.call.SawReservation ∧ v.call.cancels = 0) ∨
      (¬ v.call.SawReservation ∧ v.call.cancels = 1) := by
  obtain ⟨-, hpending, hcommitted⟩ := h.at hphase
  have howed : v.owed = 0 := by rw [owed, hqueue, hphase]; rfl
  have hrest := h.resting hpc
  unfold Resting at hrest
  split at hrest
  · contradiction
  · contradiction
  · exact .inl ⟨hrest.2.2.2, hrest.2.2.1⟩
  · rcases hrest with ⟨-, -, hnot⟩ | hoffered
    · rw [hreserved] at hnot; cases hnot
    · rcases hoffered.handoff with ⟨hother, -⟩ | ⟨-, -, hone⟩
      · contradiction
      · omega
  · exact hrest.elim
  · refine .inr ⟨fun hsaw => ?_, hrest.2⟩
    have hzero := (h.claimed hsaw).2
    rw [hrest.2] at hzero
    cases hzero
  · rw [hreserved] at hrest
    cases hrest.2.2.2.1

/-! ## A lost answer -/

/-- The reserve call failed: `FAILED` is stored, or about to be. -/
def Refused (v : View) : Prop :=
  (∃ answer, v.pc = some (.refuse answer)) ∨ v.call.handoff = .failed

/-- A commit whose answer was lost is refused. -/
def LostRefused (backend : Backend) (v : View) : Prop :=
  v.call.lost = true → backend = .postgres ∧ v.Refused

theorem Sound.refused (h : v.Sound) (hrefused : v.Refused) :
    v.call.reserved = false ∧ v.call.cancels = 0 ∧ v.call.handoff ≠ .claimed ∧
      (v.pc = none ∨ ∃ answer, v.pc = some (.refuse answer) ∨
        v.pc = some (.replyRefusal answer)) := by
  rcases hrefused with ⟨answer, hrefuse⟩ | hfailed
  · obtain ⟨hopen, -, hreserved, -⟩ := h.serving hrefuse
    refine ⟨hreserved, hopen.cancels, fun hclaimed => ?_, .inr ⟨answer, .inl hrefuse⟩⟩
    rcases hopen.handoff with hpending | ⟨hcanceled, -⟩
    · rw [hpending] at hclaimed
      cases hclaimed
    · rw [hcanceled] at hclaimed
      cases hclaimed
  · have hopen : ¬ v.Unanswered := fun hopen => by
      rcases hopen.handoff with hother | ⟨hother, -⟩ <;> rw [hfailed] at hother <;> cases hother
    have hoffered : ¬ v.Offered := fun hoffered => by
      rcases hoffered.handoff with ⟨hother, -⟩ | ⟨hother, -⟩ <;> rw [hfailed] at hother <;>
        cases hother
    cases hpc : v.pc with
    | none =>
      have hrest := h.resting hpc
      simp only [Resting, hfailed] at hrest
      exact ⟨hrest.2.2.2.1, hrest.2.2.1, by simp [hfailed], .inl rfl⟩
    | some pc =>
      have hserving := h.serving hpc
      cases pc with
      | replyRefusal answer =>
        exact ⟨hserving.2.2.2.2.2.1, hserving.2.2.2.2.1, by simp [hfailed],
          .inr ⟨answer, .inr rfl⟩⟩
      | reserve | refuse answer | offer balance => exact absurd hserving.1 hopen
      | reply balance | withdraw => exact absurd hserving.1 hoffered
      | _ => simp [Serving, hfailed] at hserving

theorem Sound.lost_caller (h : v.Sound) (act : CallerAct) :
    (v.call.callerStep act).1.lost = v.call.lost ∧
      (v.call.handoff = .failed → (v.call.callerStep act).1.handoff = .failed) := by
  have hcases := callerStep_cases v.call act
  generalize v.call.callerStep act = next at hcases ⊢
  cases hcases with
  | claim balance =>
    rw [Call.claim]
    split
    · rename_i hcommitted
      exact ⟨rfl, fun hfailed => by rw [hfailed] at hcommitted; cases hcommitted⟩
    · exact ⟨rfl, id⟩
  | guard pc answer hphase =>
    cases pc with
    | load =>
      rw [Call.guardStep]
      split <;> exact ⟨rfl, id⟩
    | swap seen =>
      obtain ⟨-, -, hseen⟩ := h.at hphase
      rw [Call.guardStep]
      split
      · rename_i hsame
        refine ⟨rfl, fun hfailed => ?_⟩
        rcases hseen with rfl | rfl <;> rw [hfailed] at hsame <;> cases hsame
      · exact ⟨rfl, id⟩
    | dispatch => exact ⟨rfl, id⟩
  | _ => exact ⟨rfl, id⟩

theorem writerStep_lost (c : Call) (h : (c.writerStep backend registry pc).1.lost = true) :
    c.lost = true ∨ backend = .postgres ∧
      ∃ e, (c.writerStep backend registry pc).2 = some (.refuse (.error e)) := by
  cases pc with
  | reserve =>
    rcases registry with (e | _ | balance) | e
    · exact .inl h
    · exact .inl h
    · exact .inl h
    · rcases (Bool.or_eq_true ..).mp h with hlost | hpostgres
      · exact .inl hlost
      · exact .inr ⟨eq_of_beq hpostgres, e, rfl⟩
  | refuse answer | cancel | finish => exact .inl h
  | replyRefusal answer | offer balance | reply balance | withdraw | cancelReserve =>
    simp only [Call.writerStep, Call.refunding] at h
    split at h <;> exact .inl h
  | refund =>
    cases backend with
    | sqlite =>
      simp only [Call.writerStep, Call.refunding] at h
      split at h <;> exact .inl h
    | postgres => exact .inl h

theorem LostRefused.write (hl : v.LostRefused backend) (h : v.Sound) (hpc : v.pc = some pc) :
    (v.write backend registry pc).LostRefused backend := by
  intro hlost
  rcases writerStep_lost v.call hlost with hkept | ⟨hpostgres, e, hrefuse⟩
  · obtain ⟨hpostgres, hrefused⟩ := hl hkept
    refine ⟨hpostgres, ?_⟩
    rcases (h.refused hrefused).2.2.2 with hnone | ⟨answer, hat | hat⟩
    · rw [hpc] at hnone
      cases hnone
    · obtain rfl := some.inj (hpc.symm.trans hat)
      exact .inr rfl
    · obtain rfl := some.inj (hpc.symm.trans hat)
      have hfailed := (h.serving hpc).1
      refine .inr ?_
      simp only [View.write, Call.writerStep]
      split <;> exact hfailed
  · exact ⟨hpostgres, .inl ⟨_, hrefuse⟩⟩

theorem LostRefused.step (hl : v.LostRefused backend) (h : v.Sound)
    (hstep : Step backend v v') : v'.LostRefused backend := by
  cases hstep with
  | other => exact hl
  | caller act =>
    obtain ⟨hkept, hfailed⟩ := h.lost_caller act
    intro hlost
    obtain ⟨hpostgres, hrefused⟩ := hl (hkept.symm.trans hlost)
    exact ⟨hpostgres, hrefused.imp_right hfailed⟩
  | take kind hidle =>
    have hcall : (v.take kind).call = v.call := by cases kind <;> rfl
    intro hlost
    rw [hcall] at hlost
    obtain ⟨hpostgres, ⟨answer, hrefuse⟩ | hfailed⟩ := hl hlost
    · rw [hidle] at hrefuse
      cases hrefuse
    · exact ⟨hpostgres, .inr (by rw [hcall]; exact hfailed)⟩
  | write _ _ hpc => exact hl.write h hpc

end View

namespace World

variable {ρ : Type} [DecidableEq ρ]

theorem sound_run (backend : Backend) (acts : List (Act ρ)) (r : ρ) :
    ((run (step backend) init acts).view r).Sound ∧
      ((run (step backend) init acts).view r).LostRefused backend := by
  have hinit : ((init : World ρ).view r).Sound ∧ ((init : World ρ).view r).LostRefused backend :=
    ⟨View.sound_new, fun hlost => Bool.noConfusion hlost⟩
  refine run_invariant (I := fun w : World ρ =>
    (w.view r).Sound ∧ (w.view r).LostRefused backend) ?_ hinit acts
  intro w act h
  exact ⟨h.1.step (view_step backend w r act), h.2.step h.1 (view_step backend w r act)⟩

end World

end ApiToken.Billing
