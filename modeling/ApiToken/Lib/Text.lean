import Mathlib.Data.List.DropRight
import Mathlib.Tactic.IntervalCases
import ApiToken.Lib.Basic

/-!
# Texts and their bytes

Texts as lists of characters with the operations of a UTF-8 string type:
trimming of Unicode white space, prefixes, lines, the encoding and its
decoding. A newline byte occurs in the encoding only for a newline, so the
bytes between newlines are the encodings of the lines.
-/

namespace ApiToken

variable {s line : List Char} {ls : List (List Char)}

/-- Unicode `White_Space`. -/
def isWhitespace (c : Char) : Bool :=
  let n := c.toNat
  (9 ≤ n && n ≤ 13) || n = 0x20 || n = 0x85 || n = 0xA0 || n = 0x1680
    || (0x2000 ≤ n && n ≤ 0x200A) || n = 0x2028 || n = 0x2029 || n = 0x202F
    || n = 0x205F || n = 0x3000

/-- Without its leading white space. -/
def trimStart (s : List Char) : List Char := s.dropWhile isWhitespace

/-- Without its trailing white space. -/
def trimEnd (s : List Char) : List Char := s.rdropWhile isWhitespace

def trim (s : List Char) : List Char := trimEnd (trimStart s)

def stripPrefix (p : List Char) (s : List Char) : Option (List Char) :=
  if p <+: s then some (s.drop p.length) else none

def stripCr (line : List Char) : List Char :=
  if line.getLast? = some '\r' then line.dropLast else line

/-- What stands between newlines, after the characters `cur` of an open
line. -/
def rawLinesFrom (cur : List Char) : List Char → List (List Char)
  | [] => if cur = [] then [] else [cur]
  | c :: rest =>
    if c = '\n' then cur :: rawLinesFrom [] rest
    else rawLinesFrom (cur ++ [c]) rest

/-- What stands between newlines. -/
def rawLines (s : List Char) : List (List Char) := rawLinesFrom [] s

/-- The lines after the characters `cur` of an open one. -/
def linesFrom (cur : List Char) : List Char → List (List Char)
  | [] => if cur = [] then [] else [cur]
  | c :: rest =>
    if c = '\n' then stripCr cur :: linesFrom [] rest
    else linesFrom (cur ++ [c]) rest

def lines (s : List Char) : List (List Char) := linesFrom [] s

def utf8 (s : List Char) : List UInt8 := s.flatMap String.utf8EncodeChar

def fromUtf8 (bytes : List UInt8) : Option (List Char) :=
  bytes.toByteArray.utf8Decode?.map Array.toList

theorem append_cons_inj {c : Char} {a b t : List Char} (ha : c ∉ a) (hb : c ∉ b)
    (h : a ++ c :: s = b ++ c :: t) : a = b ∧ s = t := by
  induction a generalizing b with
  | nil =>
    cases b with
    | nil => exact ⟨rfl, (List.cons.inj h).2⟩
    | cons => exact absurd (List.cons.inj h).1 (fun hy => hb (by simp [hy]))
  | cons _ _ ih =>
    cases b with
    | nil => exact absurd (List.cons.inj h).1 (fun hx => ha (by simp [hx]))
    | cons =>
      obtain ⟨hxy, hrest⟩ := List.cons.inj h
      obtain ⟨hab, hst⟩ := ih (fun hmem => ha (by simp [hmem]))
        (fun hmem => hb (by simp [hmem])) hrest
      exact ⟨by rw [hxy, hab], hst⟩

/-! ## White space -/

theorem isWhitespace_cr : isWhitespace '\r' = true := by decide

theorem trimStart_append_cr (s : List Char) :
    trimStart (s ++ ['\r']) = trimStart s ++ ['\r'] ∨
      (trimStart (s ++ ['\r']) = [] ∧ trimStart s = []) := by
  unfold trimStart
  induction s with
  | nil => exact Or.inr ⟨by simp [isWhitespace_cr], rfl⟩
  | cons c _ ih =>
    cases hc : isWhitespace c with
    | true =>
      rw [cons_append, List.dropWhile_cons_of_pos hc, List.dropWhile_cons_of_pos hc]
      exact ih
    | false =>
      have hneg : ¬ isWhitespace c = true := by rw [hc]; nofun
      rw [cons_append, List.dropWhile_cons_of_neg hneg, List.dropWhile_cons_of_neg hneg]
      exact Or.inl rfl

theorem trim_append_cr (s : List Char) : trim (s ++ ['\r']) = trim s := by
  unfold trim trimEnd
  rcases trimStart_append_cr s with h | ⟨h, h'⟩
  · rw [h, List.rdropWhile_concat_pos _ _ _ isWhitespace_cr]
  · rw [h, h']

/-- A text without white space at its ends. -/
def Trimmed (s : List Char) : Prop :=
  trimStart s = s ∧ trimEnd s = s

theorem trimmed_trim (s : List Char) : Trimmed (trim s) := by
  refine ⟨?_, List.rdropWhile_idempotent ..⟩
  unfold trim trimStart trimEnd
  generalize hstart : s.dropWhile isWhitespace = t
  obtain ⟨rest, hrest⟩ := List.rdropWhile_prefix isWhitespace (l := t)
  cases hend : t.rdropWhile isWhitespace with
  | nil => rfl
  | cons c =>
    -- the first character is the one trimming at the start stopped at
    have hhead : t.head? = some c := by
      rw [← hrest, hend]
      rfl
    have hc : ¬ isWhitespace c = true := by
      have hnot := List.head?_dropWhile_not isWhitespace s
      rw [hstart, hhead] at hnot
      simpa using hnot
    exact List.dropWhile_cons_of_neg hc

theorem trim_space_cons (h : Trimmed s) : trim (' ' :: s) = s := by
  unfold trim trimStart
  rw [List.dropWhile_cons_of_pos (by decide)]
  rw [show s.dropWhile isWhitespace = s from h.1, h.2]

/-! ## Lines -/

theorem stripCr_eq (line : List Char) : stripCr line = line ∨ line = stripCr line ++ ['\r'] := by
  unfold stripCr
  split
  · rename_i hlast
    right
    have hne : line ≠ [] := by
      rintro rfl
      exact nomatch hlast
    rw [List.getLast?_eq_getLast_of_ne_nil hne, some.injEq] at hlast
    rw [← hlast, List.dropLast_append_getLast hne]
  · exact Or.inl rfl

theorem rawLinesFrom_line (h : '\n' ∉ line) (cur rest : List Char) :
    rawLinesFrom cur (line ++ '\n' :: rest) = (cur ++ line) :: rawLines rest := by
  induction line generalizing cur with
  | nil => simp [rawLinesFrom, rawLines]
  | cons _ _ ih =>
    rw [mem_cons, not_or] at h
    rw [cons_append, rawLinesFrom, if_neg (Ne.symm h.1), ih h.2]
    simp

theorem linesFrom_line (h : '\n' ∉ line) (cur rest : List Char) :
    linesFrom cur (line ++ '\n' :: rest) = stripCr (cur ++ line) :: lines rest := by
  induction line generalizing cur with
  | nil => simp [linesFrom, lines]
  | cons _ _ ih =>
    rw [mem_cons, not_or] at h
    rw [cons_append, linesFrom, if_neg (Ne.symm h.1), ih h.2]
    simp

/-- A text of whole lines. -/
def unlines (ls : List (List Char)) : List Char := (ls.map (· ++ ['\n'])).flatten

@[simp] theorem unlines_nil : unlines [] = [] := rfl

@[simp] theorem unlines_cons (l : List Char) (ls : List (List Char)) :
    unlines (l :: ls) = l ++ '\n' :: unlines ls := by
  simp [unlines]

theorem unlines_append (ls ls' : List (List Char)) :
    unlines (ls ++ ls') = unlines ls ++ unlines ls' := by
  simp [unlines]

theorem lines_unlines (h : ∀ l ∈ ls, '\n' ∉ l) : lines (unlines ls) = ls.map stripCr := by
  induction ls with
  | nil => rfl
  | cons l _ ih =>
    rw [unlines_cons, lines, linesFrom_line (h l (mem_cons_self ..)),
      ih (fun l' hl' => h l' (mem_cons_of_mem _ hl'))]
    rfl

theorem rawLines_unlines (h : ∀ l ∈ ls, '\n' ∉ l) : rawLines (unlines ls) = ls := by
  induction ls with
  | nil => rfl
  | cons l _ ih =>
    rw [unlines_cons, rawLines, rawLinesFrom_line (h l (mem_cons_self ..)),
      ih (fun l' hl' => h l' (mem_cons_of_mem _ hl'))]
    rfl

theorem exists_unlines_append (s : List Char) :
    ∃ ls last, (∀ l ∈ ls, '\n' ∉ l) ∧ '\n' ∉ last ∧ s = unlines ls ++ last := by
  induction s with
  | nil => exact ⟨[], [], by simp, by simp, rfl⟩
  | cons c _ ih =>
    obtain ⟨ls, last, hls, hlast, rfl⟩ := ih
    by_cases hc : c = '\n'
    · refine ⟨[] :: ls, last, ?_, hlast, by rw [hc, unlines_cons]; rfl⟩
      intro l hl
      rcases mem_cons.mp hl with rfl | hl
      · exact not_mem_nil
      · exact hls l hl
    · cases ls with
      | nil =>
        refine ⟨[], c :: last, by simp, ?_, rfl⟩
        rw [mem_cons, not_or]
        exact ⟨Ne.symm hc, hlast⟩
      | cons l ls =>
        refine ⟨(c :: l) :: ls, last, ?_, hlast, by simp⟩
        intro l' hl'
        rcases mem_cons.mp hl' with rfl | hl'
        · rw [mem_cons, not_or]
          exact ⟨Ne.symm hc, hls l (mem_cons_self ..)⟩
        · exact hls l' (mem_cons_of_mem _ hl')

theorem exists_unlines (h : s.getLast? = some '\n') :
    ∃ ls, (∀ l ∈ ls, '\n' ∉ l) ∧ s = unlines ls := by
  obtain ⟨ls, last, hls, hlast, rfl⟩ := exists_unlines_append s
  cases hopen : last with
  | nil => exact ⟨ls, hls, append_nil _⟩
  | cons c rest =>
    have hmem : '\n' ∈ last := by
      apply List.mem_of_getLast? (l := last)
      rw [← h, List.getLast?_append_of_ne_nil]
      rw [hopen]
      exact cons_ne_nil c rest
    exact absurd hmem hlast

/-! ## Bytes -/

@[simp] theorem utf8_nil : utf8 [] = [] := rfl

theorem utf8_append (s t : List Char) : utf8 (s ++ t) = utf8 s ++ utf8 t := by
  simp [utf8]

theorem fromUtf8_utf8 (s : List Char) : fromUtf8 (utf8 s) = some s := by
  unfold fromUtf8 utf8
  rw [show (s.flatMap String.utf8EncodeChar).toByteArray = s.utf8Encode from rfl,
    List.utf8Decode?_utf8Encode]
  rfl

theorem or_ne_newline (x : UInt8) {m : UInt8} (hm : m.toNat.testBit 7 = true) :
    (10 : UInt8) ≠ x ||| m := by
  intro h
  have hbit := congrArg (fun b : UInt8 => b.toNat.testBit 7) h
  simp only [UInt8.toNat_or, Nat.testBit_or, hm, Bool.or_true] at hbit
  exact nomatch hbit

theorem newline_mem_utf8EncodeChar (c : Char) :
    (10 : UInt8) ∈ String.utf8EncodeChar c ↔ c = '\n' := by
  have hpos := c.utf8Size_pos
  have hle := c.utf8Size_le_four
  have hlong : 1 < c.utf8Size → c ≠ '\n' := by
    rintro hsize rfl
    exact absurd hsize (by decide)
  interval_cases hsize : c.utf8Size
  · rw [String.utf8EncodeChar_eq_singleton hsize, mem_singleton]
    have hsmall : c.val ≤ 0x7f := by
      by_contra hbig
      unfold Char.utf8Size at hsize
      dsimp only at hsize
      split at hsize
      · exact hbig ‹_›
      · split at hsize
        · omega
        · split at hsize <;> omega
    constructor
    · intro h
      apply Char.ext
      apply UInt32.toNat_inj.mp
      have hval := congrArg UInt8.toNat h
      rw [UInt32.toNat_toUInt8] at hval
      have hnat : c.val.toNat ≤ 127 := hsmall
      have hmod : c.val.toNat % 2 ^ 8 = c.val.toNat := Nat.mod_eq_of_lt (by omega)
      rw [hmod] at hval
      exact hval.symm
    · rintro rfl
      rfl
  all_goals refine iff_of_false ?_ (hlong (by decide))
  · rw [String.utf8EncodeChar_eq_cons_cons hsize]
    simp only [mem_cons, not_mem_nil, or_false, not_or]
    exact ⟨or_ne_newline _ (by decide), or_ne_newline _ (by decide)⟩
  · rw [String.utf8EncodeChar_eq_cons_cons_cons hsize]
    simp only [mem_cons, not_mem_nil, or_false, not_or]
    exact ⟨or_ne_newline _ (by decide), or_ne_newline _ (by decide), or_ne_newline _ (by decide)⟩
  · rw [String.utf8EncodeChar_eq_cons_cons_cons_cons hsize]
    simp only [mem_cons, not_mem_nil, or_false, not_or]
    exact ⟨or_ne_newline _ (by decide), or_ne_newline _ (by decide),
      or_ne_newline _ (by decide), or_ne_newline _ (by decide)⟩

theorem newline_mem_utf8 (s : List Char) : (10 : UInt8) ∈ utf8 s ↔ '\n' ∈ s := by
  unfold utf8
  rw [mem_flatMap]
  constructor
  · rintro ⟨c, hc, hbyte⟩
    rw [(newline_mem_utf8EncodeChar c).mp hbyte] at hc
    exact hc
  · intro hmem
    exact ⟨'\n', hmem, (newline_mem_utf8EncodeChar '\n').mpr rfl⟩

end ApiToken
