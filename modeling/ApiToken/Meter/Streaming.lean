import ApiToken.Meter.Usage

/-!
# Streaming metering equals batch metering

However a stream is cut into chunks, the meter sees its lines one after the
other. What it keeps of them is the part of the stream that sets counters, in
the order of the stream, and its own counters are those the scan of the whole
text would have.
-/

namespace ApiToken.Meter

variable {m : TeeMeter} {line json : List Char} {ls : List (List Char)} {v : Value}
  {k k' : Scan}

variable {env : Env}

/-! ## Events of a text -/

def lineEvent (env : Env) (line : List Char) : Option (List Char × Value) :=
  (dataJson line).bind fun json => (env.fromStr json).map fun v => (json, v)

def eventsOf (env : Env) (ls : List (List Char)) : List Value :=
  ls.filterMap fun line => (lineEvent env line).map Prod.snd

/-- No `message_start` follows a `message_delta`. -/
def StartsFirst (vs : List Value) : Prop :=
  vs.Pairwise fun a b =>
    ¬ (eventType a = some "message_delta" ∧ eventType b = some "message_start")

instance (vs : List Value) : Decidable (StartsFirst vs) :=
  inferInstanceAs (Decidable (vs.Pairwise fun a b =>
    ¬ (eventType a = some "message_delta" ∧ eventType b = some "message_start")))

/-- The kept lines fit beside `used` bytes: each is let in by its own check. -/
def Fits (env : Env) (used : Nat) : List (List Char) → Prop
  | [] => True
  | line :: rest =>
    match lineEvent env line with
    | some (json, v) =>
      if relevant v then
        used + ((utf8 line).length + 8) ≤ sseUsageCap ∧
          Fits env (used + (utf8 (keptLine json)).length) rest
      else Fits env used rest
    | none => Fits env used rest

instance decidableFits (env : Env) (used : Nat) :
    (ls : List (List Char)) → Decidable (Fits env used ls)
  | [] => isTrue trivial
  | line :: rest =>
    match h : lineEvent env line with
    | some (json, v) =>
      have := decidableFits env (used + (utf8 (keptLine json)).length) rest
      have := decidableFits env used rest
      decidable_of_iff
        (if relevant v then
          used + ((utf8 line).length + 8) ≤ sseUsageCap ∧
            Fits env (used + (utf8 (keptLine json)).length) rest
        else Fits env used rest)
        (by simp only [Fits, h])
    | none =>
      have := decidableFits env used rest
      decidable_of_iff (Fits env used rest) (by simp only [Fits, h])

/-! ## Chunks and lines -/

theorem retainSseUsage_append (m : TeeMeter) (a b : List UInt8) :
    m.retainSseUsage env (a ++ b) = (m.retainSseUsage env a).retainSseUsage env b :=
  foldl_append

theorem retainSseUsage_chunks (m : TeeMeter) (chunks : List (List UInt8)) :
    chunks.foldl (TeeMeter.retainSseUsage env) m = m.retainSseUsage env chunks.flatten := by
  induction chunks generalizing m with
  | nil => rfl
  | cons _ _ ih => rw [foldl_cons, ih, flatten_cons, retainSseUsage_append]

theorem retain_open_line {bs : List UInt8} (hnl : (10 : UInt8) ∉ bs)
    (hdrop : m.sseDropLine = false) (hlen : m.sseLine.length + bs.length ≤ sseLineCap) :
    m.retainSseUsage env bs = { m with sseLine := m.sseLine ++ bs } := by
  induction bs generalizing m with
  | nil => simp [TeeMeter.retainSseUsage]
  | cons b _ ih =>
    rw [mem_cons, not_or] at hnl
    rw [length_cons] at hlen
    have hbyte : m.byte env b = { m with sseLine := m.sseLine ++ [b] } := by
      unfold TeeMeter.byte
      rw [hdrop, if_neg Bool.false_ne_true, if_pos (Ne.symm hnl.1), if_pos (by omega)]
    have hrest := ih hnl.2 (m := { m with sseLine := m.sseLine ++ [b] }) hdrop
      (by simp only [length_append, List.length_singleton]; omega)
    unfold TeeMeter.retainSseUsage at hrest ⊢
    rw [foldl_cons, hbyte, hrest]
    simp

def TeeMeter.text (env : Env) (m : TeeMeter) (line : List Char) : TeeMeter :=
  match dataJson line with
  | none => m
  | some json =>
    match env.fromStr json with
    | none => { m with sseProtocolValid := false }
    | some v => (m.observe v).keep line json v

structure TeeMeter.AtLineStart (m : TeeMeter) : Prop where
  empty : m.sseLine = []
  reading : m.sseDropLine = false

theorem TeeMeter.AtLineStart.observe (h : m.AtLineStart) (v : Value) :
    (m.observe v).AtLineStart := by
  unfold TeeMeter.observe
  split <;> exact ⟨h.empty, h.reading⟩

theorem TeeMeter.AtLineStart.keep (h : m.AtLineStart) (line json : List Char) (v : Value) :
    (m.keep line json v).AtLineStart := by
  unfold TeeMeter.keep
  split <;> exact ⟨h.empty, h.reading⟩

theorem TeeMeter.AtLineStart.text (h : m.AtLineStart) (line : List Char) :
    (m.text env line).AtLineStart := by
  unfold TeeMeter.text
  split
  · exact h
  · split
    · exact ⟨h.empty, h.reading⟩
    · exact (h.observe _).keep ..

theorem retain_line (h : m.AtLineStart) (hnl : '\n' ∉ line)
    (hlen : (utf8 line).length ≤ sseLineCap) :
    m.retainSseUsage env (utf8 line ++ [10]) = m.text env line := by
  have hbytes : (10 : UInt8) ∉ utf8 line := fun h => hnl ((newline_mem_utf8 line).mp h)
  rw [retainSseUsage_append, retain_open_line hbytes h.reading (by rw [h.empty]; simpa)]
  have hback : ({ m with sseLine := [], sseDropLine := false } : TeeMeter) = m := by
    rw [← h.empty, ← h.reading]
  unfold TeeMeter.retainSseUsage
  rw [foldl_cons, foldl_nil, TeeMeter.byte]
  simp only [h.reading, h.empty, nil_append, ne_eq, not_true_eq_false, if_bool]
  rw [hback, TeeMeter.line, fromUtf8_utf8]
  rfl

theorem retain_lines (h : m.AtLineStart) (hnl : ∀ l ∈ ls, '\n' ∉ l)
    (hlen : ∀ l ∈ ls, (utf8 l).length ≤ sseLineCap) :
    m.retainSseUsage env (utf8 (unlines ls)) = ls.foldl (TeeMeter.text env) m := by
  induction ls generalizing m with
  | nil => rfl
  | cons l ls ih =>
    have hl := hnl l (mem_cons_self ..)
    have hbytes : utf8 (unlines (l :: ls)) = (utf8 l ++ [10]) ++ utf8 (unlines ls) := by
      rw [unlines_cons, utf8_append]
      simp [utf8]
      rfl
    rw [hbytes, retainSseUsage_append, retain_line h hl (hlen l (mem_cons_self ..)), foldl_cons]
    exact ih (h.text l) (fun l' hl' => hnl l' (mem_cons_of_mem _ hl'))
      (fun l' hl' => hlen l' (mem_cons_of_mem _ hl'))

/-! ## The scan of a text is the scan of its events -/

theorem stripPrefix_append_cr {p : List Char} (hcr : '\r' ∉ p) (s : List Char) :
    stripPrefix p (s ++ ['\r']) = (stripPrefix p s).map (· ++ ['\r']) := by
  unfold stripPrefix
  by_cases hp : p <+: s
  · rw [if_pos hp, if_pos (hp.trans (prefix_append ..)), map_some,
      List.drop_append_of_le_length hp.length_le]
  · rw [if_neg hp, if_neg, map_none]
    intro h
    rcases List.prefix_concat_iff.mp h with heq | h
    · apply hcr
      rw [heq]
      exact mem_append_right _ (mem_singleton.mpr rfl)
    · exact hp h

theorem dataJson_append_cr (line : List Char) : dataJson (line ++ ['\r']) = dataJson line := by
  unfold dataJson
  rcases trimStart_append_cr line with h | ⟨h, h'⟩
  · rw [h, stripPrefix_append_cr (by decide), Option.map_map]
    congr 1
    funext s
    exact trim_append_cr s
  · rw [h, h']

theorem dataJson_stripCr (line : List Char) : dataJson (stripCr line) = dataJson line := by
  rcases stripCr_eq line with h | h
  · rw [h]
  · conv_rhs => rw [h]
    rw [dataJson_append_cr]

structure Env.Json (env : Env) : Prop where
  empty : env.fromStr [] = none
  done : env.fromStr "[DONE]".toList = none

theorem Scan.line_eq (hjson : env.Json) (k : Scan) (line : List Char) :
    k.line env line =
      match lineEvent env line with
      | some (_, v) => k.event v
      | none => k := by
  unfold Scan.line lineEvent
  cases dataJson line with
  | none => rfl
  | some json =>
    dsimp only [bind_some]
    split
    · rename_i hskip
      rcases hskip with rfl | rfl
      · rw [hjson.empty]
        rfl
      · rw [hjson.done]
        rfl
    · cases env.fromStr json <;> rfl

theorem scan_lines (hjson : env.Json) (ls : List (List Char)) (k : Scan) :
    ls.foldl (Scan.line env) k = (eventsOf env ls).foldl Scan.event k := by
  induction ls generalizing k with
  | nil => rfl
  | cons l _ ih =>
    rw [foldl_cons, ih, Scan.line_eq hjson]
    unfold eventsOf
    cases hevent : lineEvent env l with
    | none => rw [filterMap_cons_none (by rw [hevent]; rfl)]
    | some jv => rw [filterMap_cons_some (b := jv.2) (by rw [hevent]; rfl), foldl_cons]

theorem lineEvent_stripCr (line : List Char) :
    lineEvent env (stripCr line) = lineEvent env line := by
  unfold lineEvent
  rw [dataJson_stripCr]

theorem usageFromSse_unlines (hjson : env.Json) (hnl : ∀ l ∈ ls, '\n' ∉ l) :
    usageFromSse env (unlines ls) = ((eventsOf env ls).foldl Scan.event {}).finish := by
  unfold usageFromSse
  rw [lines_unlines hnl, scan_lines hjson]
  have hevents : eventsOf env (ls.map stripCr) = eventsOf env ls := by
    unfold eventsOf
    rw [List.filterMap_map]
    congr 1
    funext line
    exact congrArg (Option.map Prod.snd) (lineEvent_stripCr line)
  rw [hevents]

/-! ## The kept lines -/

/-- Payloads of the lines that carry usage. -/
def keptJsons (env : Env) (ls : List (List Char)) : List (List Char) :=
  ls.filterMap fun line => (lineEvent env line).bind fun (json, v) =>
    if relevant v then some json else none

theorem observe_acc (m : TeeMeter) (v : Value) : (m.observe v).acc = m.acc := by
  unfold TeeMeter.observe
  split <;> rfl

theorem text_eq (m : TeeMeter) (line : List Char) :
    (∃ json v, lineEvent env line = some (json, v) ∧
      m.text env line = (m.observe v).keep line json v) ∨ (lineEvent env line = none ∧
      (m.text env line = m ∨ m.text env line = { m with sseProtocolValid := false })) := by
  unfold TeeMeter.text lineEvent
  cases dataJson line with
  | none => exact Or.inr ⟨rfl, Or.inl rfl⟩
  | some json =>
    dsimp only [bind_some]
    cases env.fromStr json with
    | none => exact Or.inr ⟨rfl, Or.inr rfl⟩
    | some v => exact Or.inl ⟨json, v, rfl, rfl⟩

theorem acc_lines (hfits : Fits env m.acc.length ls) :
    (ls.foldl (TeeMeter.text env) m).acc
      = m.acc ++ utf8 ((keptJsons env ls).flatMap keptLine) := by
  induction ls generalizing m with
  | nil => simp [keptJsons]
  | cons l ls ih =>
    rw [foldl_cons]
    unfold Fits at hfits
    rcases @text_eq env m l with ⟨json, v, hevent, htext⟩ | ⟨hevent, htext⟩
    · rw [hevent] at hfits
      dsimp only at hfits
      cases hrel : relevant v with
      | true =>
        rw [if_pos hrel] at hfits
        have hacc : (m.text env l).acc = m.acc ++ utf8 (keptLine json) := by
          rw [htext]
          unfold TeeMeter.keep
          rw [observe_acc, hrel, if_pos (by simpa using hfits.1)]
        have hkept : keptJsons env (l :: ls) = json :: keptJsons env ls := by
          unfold keptJsons
          exact filterMap_cons_some (by rw [hevent]; simp [hrel])
        rw [ih (by rw [hacc, length_append]; exact hfits.2), hacc, hkept,
          flatMap_cons, utf8_append, append_assoc]
      | false =>
        rw [if_neg (by rw [hrel]; nofun)] at hfits
        have hacc : (m.text env l).acc = m.acc := by
          rw [htext]
          unfold TeeMeter.keep
          rw [hrel, Bool.false_and, if_neg Bool.false_ne_true, observe_acc]
        have hkept : keptJsons env (l :: ls) = keptJsons env ls := by
          unfold keptJsons
          exact filterMap_cons_none (by rw [hevent]; simp [hrel])
        rw [ih (by rw [hacc]; exact hfits), hacc, hkept]
    · rw [hevent] at hfits
      dsimp only at hfits
      have hacc : (m.text env l).acc = m.acc := by rcases htext with h | h <;> rw [h]
      have hkept : keptJsons env (l :: ls) = keptJsons env ls := by
        unfold keptJsons
        exact filterMap_cons_none (by rw [hevent]; rfl)
      rw [ih (by rw [hacc]; exact hfits), hacc, hkept]

def keptLines (jsons : List (List Char)) : List (List Char) :=
  jsons.flatMap fun json => ["data: ".toList ++ json, []]

theorem keptLine_unlines (jsons : List (List Char)) :
    jsons.flatMap keptLine = unlines (keptLines jsons) := by
  induction jsons with
  | nil => rfl
  | cons json rest ih =>
    have hcons : keptLines (json :: rest) = ["data: ".toList ++ json, []] ++ keptLines rest := rfl
    have hline : unlines ["data: ".toList ++ json, []] = keptLine json := by
      rw [unlines_cons, unlines_cons, unlines_nil, nil_append]
      rfl
    rw [flatMap_cons, ih, hcons, unlines_append, hline]

theorem dataJson_kept (h : Trimmed json) : dataJson ("data: ".toList ++ json) = some json := by
  have hstart : trimStart ("data: ".toList ++ json) = "data: ".toList ++ json :=
    List.dropWhile_cons_of_neg (by decide)
  have hprefix : "data:".toList <+: "data: ".toList ++ json := ⟨' ' :: json, rfl⟩
  unfold dataJson stripPrefix
  rw [hstart, if_pos hprefix, map_some]
  exact congrArg some (trim_space_cons h)

theorem trim_subset {s : List Char} {c : Char} (h : c ∈ trim s) : c ∈ s :=
  List.dropWhile_subset _ ((List.rdropWhile_prefix isWhitespace _).subset h)

theorem lineEvent_payload (h : lineEvent env line = some (json, v)) :
    Trimmed json ∧ env.fromStr json = some v ∧ ∀ c ∈ json, c ∈ line := by
  simp only [lineEvent, dataJson, bind_eq_some_iff, map_eq_some_iff, Prod.mk.injEq] at h
  obtain ⟨json', ⟨rest, hrest, rfl⟩, v', hv, rfl, rfl⟩ := h
  refine ⟨trimmed_trim rest, hv, ?_⟩
  intro c hc
  unfold stripPrefix at hrest
  split at hrest
  · rw [some.injEq] at hrest
    apply List.dropWhile_subset isWhitespace
    apply List.drop_subset "data:".toList.length
    rw [show (List.dropWhile isWhitespace line).drop "data:".toList.length = rest from hrest]
    exact trim_subset hc
  · exact nomatch hrest

theorem lineEvent_kept (h : lineEvent env line = some (json, v)) :
    lineEvent env ("data: ".toList ++ json) = some (json, v) := by
  obtain ⟨htrim, hv, -⟩ := lineEvent_payload h
  rw [lineEvent, dataJson_kept htrim, bind_some, hv]
  rfl

theorem eventsOf_kept (ls : List (List Char)) :
    eventsOf env (keptLines (keptJsons env ls)) = (eventsOf env ls).filter relevant := by
  induction ls with
  | nil => rfl
  | cons l ls ih =>
    have hblank : lineEvent env [] = none := rfl
    cases hevent : lineEvent env l with
    | none =>
      have hkept : keptJsons env (l :: ls) = keptJsons env ls :=
        filterMap_cons_none (by rw [hevent]; rfl)
      have hevents : eventsOf env (l :: ls) = eventsOf env ls :=
        filterMap_cons_none (by rw [hevent]; rfl)
      rw [hkept, hevents, ih]
    | some jv =>
      obtain ⟨json, v⟩ := jv
      have hevents : eventsOf env (l :: ls) = v :: eventsOf env ls :=
        filterMap_cons_some (by rw [hevent]; rfl)
      cases hrel : relevant v with
      | true =>
        have hkept : keptJsons env (l :: ls) = json :: keptJsons env ls :=
          filterMap_cons_some (by rw [hevent]; simp [hrel])
        have hfirst : eventsOf env (keptLines (json :: keptJsons env ls))
            = v :: eventsOf env (keptLines (keptJsons env ls)) := by
          unfold eventsOf
          rw [show keptLines (json :: keptJsons env ls)
            = ("data: ".toList ++ json) :: [] :: keptLines (keptJsons env ls)
            from rfl,
            filterMap_cons_some (b := v) (by rw [lineEvent_kept hevent]; rfl),
            filterMap_cons_none (by rw [hblank]; rfl)]
        rw [hkept, hfirst, hevents, List.filter_cons_of_pos hrel, ih]
      | false =>
        have hkept : keptJsons env (l :: ls) = keptJsons env ls :=
          filterMap_cons_none (by rw [hevent]; simp [hrel])
        have hneg : ¬ relevant v = true := by rw [hrel]; nofun
        rw [hkept, hevents, List.filter_cons_of_neg hneg, ih]

theorem keptJsons_newline (hnl : ∀ l ∈ ls, '\n' ∉ l) :
    ∀ l ∈ keptLines (keptJsons env ls), '\n' ∉ l := by
  intro l hl
  obtain ⟨json, hjson, hl⟩ := mem_flatMap.mp hl
  obtain ⟨line, hline, hkeep⟩ := mem_filterMap.mp hjson
  rw [bind_eq_some_iff] at hkeep
  obtain ⟨⟨json', v⟩, hevent, hkeep⟩ := hkeep
  have hsame : json' = json := by
    dsimp only at hkeep
    split at hkeep
    · exact some.inj hkeep
    · exact nomatch hkeep
  subst hsame
  have hin := (lineEvent_payload hevent).2.2
  simp only [mem_cons, not_mem_nil, or_false] at hl
  rcases hl with rfl | rfl
  · intro hmem
    rcases mem_append.mp hmem with h | h
    · exact absurd h (by decide)
    · exact hnl line hline (hin _ h)
  · exact not_mem_nil

/-! ## Counters -/

/-- The meter's counters are those of a scan of the same events; a reported
output is the last one, as no `message_start` came after it. -/
structure Tracks (m : TeeMeter) (k : Scan) : Prop where
  delta : m.sseDeltaBytes = k.deltaBytes
  web : m.sseWebSearchRequests = k.observedWebSearchRequests
  output : (m.sseOutputTokens = none ∧ k.haveOutputUsage = false) ∨
    (m.sseSawMessageDelta = true ∧ k.haveOutputUsage = true ∧
      m.sseOutputTokens = some k.u.outputTokens)

theorem Tracks.observe (h : Tracks m k)
    (hstart : eventType v = some "message_start" → m.sseSawMessageDelta = false) :
    Tracks (m.observe v) (k.event v) := by
  obtain ⟨hdelta, hweb, hout⟩ := h
  unfold TeeMeter.observe Scan.event
  split
  · rename_i htype
    rw [htype]
    -- nothing was reported before the start
    have hnone : m.sseOutputTokens = none ∧ k.haveOutputUsage = false := by
      rcases hout with hout | ⟨hsaw, -⟩
      · exact hout
      · exact nomatch hsaw.symm.trans (hstart htype)
    exact ⟨hdelta, hweb, Or.inl hnone⟩
  · rename_i htype
    rw [htype]
    dsimp only [TeeMeter.blockStart]
    split
    · exact ⟨hdelta, congrArg (saturatingAdd · 1) hweb, hout⟩
    · exact ⟨hdelta, hweb, hout⟩
  · rename_i htype
    rw [htype]
    exact ⟨congrArg (addDelta v) hdelta, hweb, hout⟩
  · rename_i htype
    rw [htype]
    refine ⟨hdelta, hweb, ?_⟩
    dsimp only [deltaUsage]
    cases hreport : deltaOutput v with
    | some => exact Or.inr ⟨rfl, by simp, rfl⟩
    | none =>
      rcases hout with ⟨hnone, hhave⟩ | ⟨-, hhave, hsome⟩
      · exact Or.inl ⟨by rw [hnone]; rfl, by rw [hhave]; rfl⟩
      · exact Or.inr ⟨rfl, by rw [hhave]; rfl, by rw [hsome]; rfl⟩
  · rename_i htype
    rw [htype]
    exact ⟨hdelta, hweb, hout⟩
  · rename_i htype
    rw [htype]
    exact ⟨hdelta, hweb, hout⟩
  · rename_i h1 h2 h3 h4 h5 h6
    split
    · exact absurd ‹_› h2
    · exact absurd ‹_› h3
    · exact absurd ‹_› h1
    · exact absurd ‹_› h4
    · exact ⟨hdelta, hweb, hout⟩

theorem Tracks.keep (h : Tracks m k) (line json : List Char) (v : Value) :
    Tracks (m.keep line json v) k := by
  unfold TeeMeter.keep
  split
  · exact ⟨h.delta, h.web, h.output⟩
  · exact h

theorem observe_sawDelta (m : TeeMeter) (v : Value) :
    (m.observe v).sseSawMessageDelta
      = (m.sseSawMessageDelta || eventType v = some "message_delta") := by
  unfold TeeMeter.observe
  split
  case h_7 h1 h2 h3 h4 h5 h6 => simp [show ¬ eventType v = some "message_delta" from h4]
  all_goals simp [*, TeeMeter.blockStart]

theorem keep_sawDelta (m : TeeMeter) (line json : List Char) (v : Value) :
    (m.keep line json v).sseSawMessageDelta = m.sseSawMessageDelta := by
  unfold TeeMeter.keep
  split <;> rfl

/-- Over whole texts, as long as no `message_start` follows a
`message_delta`. -/
theorem Tracks.lines (h : Tracks m k) (hfirst : StartsFirst (eventsOf env ls))
    (hseen : m.sseSawMessageDelta = true →
      ∀ v ∈ eventsOf env ls, eventType v ≠ some "message_start") :
    Tracks (ls.foldl (TeeMeter.text env) m) ((eventsOf env ls).foldl Scan.event k) := by
  induction ls generalizing m k with
  | nil => exact h
  | cons l ls ih =>
    rw [foldl_cons]
    rcases @text_eq env m l with ⟨json, v, hevent, htext⟩ | ⟨hevent, htext⟩
    · have hevents : eventsOf env (l :: ls) = v :: eventsOf env ls :=
        filterMap_cons_some (by rw [hevent]; rfl)
      rw [hevents] at hfirst hseen ⊢
      obtain ⟨hv, hrest⟩ := pairwise_cons.mp hfirst
      have hstart : eventType v = some "message_start" →
          m.sseSawMessageDelta = false := by
        intro htype
        cases hsaw : m.sseSawMessageDelta with
        | false => rfl
        | true => exact absurd htype (hseen hsaw v (mem_cons_self ..))
      rw [htext, foldl_cons]
      refine ih ((h.observe hstart).keep l json v) hrest ?_
      intro hsaw v' hv' htype
      rw [keep_sawDelta, observe_sawDelta, Bool.or_eq_true, decide_eq_true_eq] at hsaw
      rcases hsaw with hsaw | hdelta
      · exact hseen hsaw v' (mem_cons_of_mem _ hv') htype
      · exact hv v' hv' ⟨hdelta, htype⟩
    · have hevents : eventsOf env (l :: ls) = eventsOf env ls :=
        filterMap_cons_none (by rw [hevent]; rfl)
      rw [hevents] at hfirst hseen ⊢
      rcases htext with htext | htext <;> rw [htext]
      · exact ih h hfirst hseen
      · exact ih ⟨h.delta, h.web, h.output⟩ hfirst hseen

/-! ## The scan of the kept events -/

theorem event_relevant (hrel : relevant v = true) (hu : k'.u = k.u)
    (hhave : k'.haveOutputUsage = k.haveOutputUsage) :
    (k'.event v).u = (k.event v).u ∧
      (k'.event v).haveOutputUsage = (k.event v).haveOutputUsage ∧
      (k'.event v).deltaBytes = k'.deltaBytes ∧
      (k'.event v).observedWebSearchRequests = k'.observedWebSearchRequests := by
  simp only [relevant, guard_iffs] at hrel
  unfold Scan.event
  rcases hrel with (htype | htype) | htype <;> rw [htype] <;> simp [hu, hhave]

theorem event_irrelevant (hrel : relevant v = false) (k : Scan) :
    (k.event v).u = k.u ∧ (k.event v).haveOutputUsage = k.haveOutputUsage := by
  simp only [relevant, guard_iffs] at hrel
  unfold Scan.event
  split
  · split <;> exact ⟨rfl, rfl⟩
  · exact ⟨rfl, rfl⟩
  · exact absurd ‹_› hrel.1.1
  · exact absurd ‹_› hrel.1.2
  · exact ⟨rfl, rfl⟩

theorem scan_relevant (vs : List Value) {k k' : Scan} (hu : k'.u = k.u)
    (hhave : k'.haveOutputUsage = k.haveOutputUsage) :
    ((vs.filter relevant).foldl Scan.event k').u = (vs.foldl Scan.event k).u ∧
      ((vs.filter relevant).foldl Scan.event k').haveOutputUsage
        = (vs.foldl Scan.event k).haveOutputUsage ∧
      ((vs.filter relevant).foldl Scan.event k').deltaBytes = k'.deltaBytes ∧
      ((vs.filter relevant).foldl Scan.event k').observedWebSearchRequests
        = k'.observedWebSearchRequests := by
  induction vs generalizing k k' with
  | nil => exact ⟨hu, hhave, rfl, rfl⟩
  | cons v _ ih =>
    cases hrel : relevant v with
    | true =>
      obtain ⟨hu', hhave', hdelta, hweb⟩ := event_relevant hrel hu hhave
      rw [List.filter_cons_of_pos hrel, foldl_cons, foldl_cons]
      obtain ⟨h1, h2, h3, h4⟩ := ih hu' hhave'
      exact ⟨h1, h2, h3.trans hdelta, h4.trans hweb⟩
    | false =>
      obtain ⟨hu', hhave'⟩ := event_irrelevant hrel k
      rw [List.filter_cons_of_neg (by rw [hrel]; nofun), foldl_cons]
      exact ih (hu.trans hu'.symm) (hhave.trans hhave'.symm)

theorem max_zero (x : UInt64) : max x 0 = x := by
  show (if x ≤ 0 then 0 else x) = x
  split
  · exact (UInt64.le_antisymm ‹x ≤ 0› UInt64.zero_le).symm
  · rfl

/-- For every text of whole lines, however it is cut into chunks. -/
theorem streaming_equals_batch (env : Env) (hjson : env.Json) (text : List Char)
    (hend : text.getLast? = some '\n')
    (hlines : ∀ line ∈ rawLines text, (utf8 line).length ≤ sseLineCap)
    (hfits : Fits env 0 (rawLines text))
    (hfirst : StartsFirst (eventsOf env (rawLines text)))
    (chunks : List (List UInt8)) (hchunks : chunks.flatten = utf8 text) :
    (chunks.foldl (TeeMeter.retainSseUsage env) {}).finalUsage env = usageFromSse env text := by
  obtain ⟨ls, hnl, rfl⟩ := exists_unlines hend
  rw [rawLines_unlines hnl] at hlines hfits hfirst
  have hstart : ({} : TeeMeter).AtLineStart := ⟨rfl, rfl⟩
  rw [retainSseUsage_chunks, hchunks, retain_lines hstart hnl hlines]
  have htracks : Tracks (ls.foldl (TeeMeter.text env) {})
      ((eventsOf env ls).foldl Scan.event {}) :=
    Tracks.lines ⟨rfl, rfl, Or.inl ⟨rfl, rfl⟩⟩ hfirst nofun
  have hacc := acc_lines (m := {}) hfits
  rw [nil_append, keptLine_unlines] at hacc
  generalize ls.foldl (TeeMeter.text env) {} = m at htracks hacc
  obtain ⟨hu, hhave, hdelta, hweb⟩ := @scan_relevant (eventsOf env ls) {} {} rfl rfl
  have hkept : usageFromSse env (env.fromUtf8Lossy m.acc)
      = (((eventsOf env ls).filter relevant).foldl Scan.event {}).finish := by
    rw [Env.fromUtf8Lossy, hacc, fromUtf8_utf8, getD_some,
      usageFromSse_unlines hjson (keptJsons_newline hnl), eventsOf_kept]
  rw [usageFromSse_unlines hjson hnl]
  unfold TeeMeter.finalUsage
  rw [hkept]
  -- the kept events give the counters of the whole scan and observe nothing
  unfold Scan.finish
  simp only [hu, hhave, hdelta, hweb]
  generalize (eventsOf env ls).foldl Scan.event {} = k at htracks
  obtain ⟨hbytes, hsearches, hout⟩ := htracks
  rcases hout with ⟨hnone, hnot⟩ | ⟨-, hhad, hsome⟩
  · simp [hnone, hnot, hbytes, hsearches, max_zero]
  · simp [hsome, hhad, hsearches, max_zero]

/-- An event that reports seven output tokens. -/
def sampleJson : List Char :=
  "\x7b\"type\":\"message_delta\",\"usage\":\x7b\"output_tokens\":7\x7d\x7d".toList

/-- Reads that one text as the library does. -/
def sampleEnv : Env where
  fromStr json :=
    if json = sampleJson then
      some (.object [("type", .string "message_delta"),
        ("usage", .object [("output_tokens", .number (.posInt 7))])])
    else none
  replaced _ := []

def sampleText : List Char :=
  "id: é\n".toList ++ ("data: ".toList ++ sampleJson ++ ['\n'])

/-- The first chunk ends inside the two bytes of `é`, the second inside the
event. -/
def sampleChunks : List (List UInt8) :=
  [(utf8 sampleText).take 5, ((utf8 sampleText).drop 5).take 20, (utf8 sampleText).drop 25]

/-- A text in three chunks. -/
theorem streaming_equals_batch_sample :
    sampleChunks.flatten = utf8 sampleText ∧
      (usageFromSse sampleEnv sampleText).outputTokens = 7 ∧
      (sampleChunks.foldl (TeeMeter.retainSseUsage sampleEnv) {}).finalUsage sampleEnv
        = usageFromSse sampleEnv sampleText := by
  have hchunks : sampleChunks.flatten = utf8 sampleText := by decide +kernel
  refine ⟨hchunks, by decide +kernel, ?_⟩
  exact streaming_equals_batch sampleEnv ⟨by decide +kernel, by decide +kernel⟩
    sampleText (by decide +kernel) (by decide +kernel) (by decide +kernel)
    (by decide +kernel) sampleChunks hchunks

end ApiToken.Meter
