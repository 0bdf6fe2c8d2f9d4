import Audiostrike.Utf8

/-!
# `regexp`

Reference: Go's `regexp` and `regexp/syntax`: the parsed form of a pattern and the leftmost-first
semantics of `FindStringSubmatch`.

A `Regexp` is the syntax tree `regexp/syntax.Parse` builds, with the operators the program's
pattern uses. `matchAt s re i caps` lists the ways `re` matches `s` from byte offset `i`, in the
order Go's backtracker tries them: a greedy `+` prefers one more round. Each way is the offset where
the match ends and the capture groups set along it. `findStringSubmatch` takes, at the leftmost
offset where there is a match, the first one.

The input is read one rune at a time as Go's `inputString.step` reads it, decoding UTF-8. A node
that matches one ASCII rune consumes exactly one byte, whatever follows (`mem_oneRune`), and a `+`
of an ASCII class consumes a nonempty run of bytes of the class (`mem_matchAt_plus_charClass`).
-/

namespace Audiostrike

/-- A node of a parsed regular expression (`regexp/syntax.Regexp`), concatenation taken binary. -/
inductive Regexp where
  /-- `^` without the multi-line flag: `OpBeginText`. -/
  | beginText
  /-- `$` without the multi-line flag: `OpEndText`. -/
  | endText
  /-- `OpLiteral` of one rune. -/
  | literal (rune : Nat)
  /-- `OpCharClass`: a rune in one of the inclusive ranges. -/
  | charClass (ranges : List (Nat × Nat))
  /-- `OpCapture` of group `cap`. -/
  | capture (cap : Nat) (sub : Regexp)
  /-- `OpPlus`, greedy. -/
  | plus (sub : Regexp)
  /-- `OpConcat`. -/
  | concat (left right : Regexp)
deriving DecidableEq, Repr

namespace Regexp

/-- The capture groups set along a match, latest first: a group, its start and its end. -/
abbrev Caps := List (Nat × Nat × Nat)

/-- `inputString.step(pos)`: the rune at byte offset `i` and its width, nothing at the end. -/
def step (s : Bytes) (i : Nat) : Option (Nat × Nat) :=
  if i < s.length then some (Utf8.decodeRune (s.drop i)) else none

/-- Whether rune `r` lies in one of the ranges. -/
def inRanges (ranges : List (Nat × Nat)) (r : Nat) : Bool :=
  ranges.any fun range => range.1 ≤ r && r ≤ range.2

/-- A match of one rune that satisfies `p`. -/
def oneRune (s : Bytes) (p : Nat → Bool) (i : Nat) (caps : Caps) : List (Nat × Caps) :=
  match step s i with
  | some (r, width) => if p r then [(i + width, caps)] else []
  | none => []

/-- Greedy repetition of a matcher: after each match of the operand, first try one more round,
then stop there. `fuel` bounds the rounds. -/
def repeatGreedy (m : Nat → Caps → List (Nat × Caps)) : Nat → Nat → Caps → List (Nat × Caps)
  | 0, _, _ => []
  | fuel + 1, i, caps =>
    (m i caps).flatMap fun (j, caps') => repeatGreedy m fuel j caps' ++ [(j, caps')]

/-- The ways `re` matches `s` from byte offset `i`, in the order the backtracker tries them. A `+`
runs at most one round per byte of `s`, and one more. -/
def matchAt (s : Bytes) : Regexp → Nat → Caps → List (Nat × Caps)
  | beginText, i, caps => if i = 0 then [(i, caps)] else []
  | endText, i, caps => if i = s.length then [(i, caps)] else []
  | literal r, i, caps => oneRune s (· == r) i caps
  | charClass ranges, i, caps => oneRune s (inRanges ranges) i caps
  | capture cap sub, i, caps => (matchAt s sub i caps).map fun (j, caps') => (j, (cap, i, j) :: caps')
  | plus sub, i, caps => repeatGreedy (matchAt s sub) (s.length + 1) i caps
  | concat left right, i, caps =>
    (matchAt s left i caps).flatMap fun (j, caps') => matchAt s right j caps'

/-- The text of `s` from offset `i` to offset `j`. -/
def slice (s : Bytes) (i j : Nat) : Bytes := (s.drop i).take (j - i)

/-- The texts of a match from `i` to `j` with captures `caps`: the whole match, then each of the
`numSubexp` groups, `""` for one that took no part. -/
def submatches (s : Bytes) (numSubexp i j : Nat) (caps : Caps) : List Bytes :=
  slice s i j :: (List.range numSubexp).map fun k =>
    match caps.find? fun group => group.1 == k + 1 with
    | some (_, a, b) => slice s a b
    | none => []

/-- `(*Regexp).FindStringSubmatch(s)` for a regexp with `numSubexp` groups: the first match the
backtracker finds at the leftmost offset where there is one, or `nil`. -/
def findStringSubmatch (re : Regexp) (numSubexp : Nat) (s : Bytes) : Option (List Bytes) :=
  (List.range (s.length + 1)).findSome? fun i =>
    (matchAt s re i []).head?.map fun (j, caps) => submatches s numSubexp i j caps

/-! ## One rune -/

/-- A predicate on runes that only ASCII runes satisfy. -/
def AsciiOnly (p : Nat → Bool) : Prop := ∀ r, p r = true → r < Utf8.runeSelf

/-- A one-rune node of ASCII runes matches where the next byte satisfies it, and consumes that
byte: a byte from `RuneSelf` up decodes to a rune that is not ASCII. -/
theorem mem_oneRune {s : Bytes} {p : Nat → Bool} (hp : AsciiOnly p) {i : Nat} {caps : Caps}
    {x : Nat × Caps} :
    x ∈ oneRune s p i caps ↔ ∃ b rest, s.drop i = b :: rest ∧ p b.toNat = true ∧ x = (i + 1, caps) := by
  unfold oneRune step
  split_ifs with hi
  · obtain ⟨b, rest, hdrop⟩ : ∃ b rest, s.drop i = b :: rest := ⟨_, _, List.drop_eq_getElem_cons hi⟩
    rw [hdrop]
    by_cases hb : b.toNat < Utf8.runeSelf
    · simp [Utf8.decodeRune_ascii hb]
    · have hnot : ∀ r, Utf8.runeSelf ≤ r → p r = false := fun r hr =>
        Bool.eq_false_iff.mpr fun h => absurd (hp r h) (by omega)
      have hr := Utf8.runeSelf_le_decodeRune (by omega : Utf8.runeSelf ≤ b.toNat) rest
      generalize Utf8.decodeRune (b :: rest) = d at hr ⊢
      simp [hnot d.1 hr, hnot b.toNat (by omega)]
  · simp [List.drop_eq_nil_of_le (by omega : s.length ≤ i)]

/-- Every range of the class lies below `RuneSelf`. -/
def AsciiRanges (ranges : List (Nat × Nat)) : Prop := ∀ range ∈ ranges, range.2 < Utf8.runeSelf

theorem asciiOnly_inRanges {ranges : List (Nat × Nat)} (h : AsciiRanges ranges) :
    AsciiOnly (inRanges ranges) := by
  intro r hr
  obtain ⟨range, hmem, hin⟩ := List.any_eq_true.mp hr
  have := h range hmem
  simp only [Bool.and_eq_true, decide_eq_true_eq] at hin
  omega

/-! ## Greedy repetition -/

section Repeat

variable {s : Bytes} {m : Nat → Caps → List (Nat × Caps)} {q : UInt8 → Prop}

/-- A `+` of a matcher that consumes one byte satisfying `q` consumes a nonempty run of such bytes,
of at most `fuel` bytes. -/
theorem mem_repeatGreedy
    (hm : ∀ i caps x, x ∈ m i caps ↔ ∃ b rest, s.drop i = b :: rest ∧ q b ∧ x = (i + 1, caps)) :
    ∀ fuel i caps x, x ∈ repeatGreedy m fuel i caps ↔
      ∃ u rest, u ≠ [] ∧ u.length ≤ fuel ∧ (∀ b ∈ u, q b) ∧ s.drop i = u ++ rest ∧
        x = (i + u.length, caps)
  | 0, i, caps, x => by
    simp only [repeatGreedy, List.not_mem_nil, false_iff, not_exists, not_and]
    intro u _ hu hlen
    exact absurd (List.length_eq_zero.mp (by omega)) hu
  | fuel + 1, i, caps, x => by
    simp only [repeatGreedy, List.mem_flatMap, Prod.exists, List.mem_append, List.mem_singleton, hm]
    constructor
    · rintro ⟨j, caps', ⟨b, rest, hdrop, hb, hx⟩, hmore⟩
      simp only [Prod.mk.injEq] at hx
      obtain ⟨hj, hc⟩ := hx
      subst j
      subst caps'
      have htail : s.drop (i + 1) = rest := by
        rw [← List.drop_drop, hdrop, List.drop_one, List.tail_cons]
      rcases hmore with hmore | rfl
      · obtain ⟨u, rest', hu, hlen, hq, hdrop', rfl⟩ :=
          (mem_repeatGreedy hm fuel (i + 1) caps x).mp hmore
        have hsplit : s.drop i = b :: u ++ rest' := by rw [hdrop, ← htail, hdrop', List.cons_append]
        refine ⟨b :: u, rest', List.cons_ne_nil _ _, by simp only [List.length_cons]; omega, ?_, hsplit,
          by simp only [List.length_cons, Prod.mk.injEq, and_true]; omega⟩
        simpa [hb] using hq
      · exact ⟨[b], rest, List.cons_ne_nil _ _, by simp, by simpa using hb, hdrop, rfl⟩
    · rintro ⟨u, rest, hu, hlen, hq, hdrop, rfl⟩
      obtain ⟨b, u, rfl⟩ := List.exists_cons_of_ne_nil hu
      have htail : s.drop (i + 1) = u ++ rest := by
        rw [← List.drop_drop, hdrop, List.drop_one, List.cons_append, List.tail_cons]
      refine ⟨i + 1, caps, ⟨b, u ++ rest, hdrop, hq b (List.mem_cons_self _ _), rfl⟩, ?_⟩
      rcases u with _ | ⟨c, u⟩
      · exact .inr rfl
      · refine .inl ((mem_repeatGreedy hm fuel (i + 1) caps _).mpr
          ⟨c :: u, rest, List.cons_ne_nil _ _, by simp at hlen ⊢; omega,
            fun b hb => hq b (List.mem_cons_of_mem _ hb), htail, by simp; omega⟩)

end Repeat

/-! ## The nodes of a pattern -/

section Nodes

variable {s : Bytes} {i : Nat} {caps : Caps} {x : Nat × Caps}

@[simp] theorem mem_matchAt_beginText : x ∈ matchAt s beginText i caps ↔ i = 0 ∧ x = (i, caps) := by
  simp [matchAt]

@[simp] theorem mem_matchAt_endText : x ∈ matchAt s endText i caps ↔ i = s.length ∧ x = (i, caps) := by
  simp [matchAt]

theorem mem_matchAt_literal {r : Nat} (hr : r < Utf8.runeSelf) :
    x ∈ matchAt s (literal r) i caps ↔ ∃ b rest, s.drop i = b :: rest ∧ b.toNat = r ∧ x = (i + 1, caps) := by
  rw [matchAt, mem_oneRune fun r' h => by simpa [beq_iff_eq.mp h] using hr]
  simp

theorem mem_matchAt_charClass {ranges : List (Nat × Nat)} (h : AsciiRanges ranges) :
    x ∈ matchAt s (charClass ranges) i caps ↔
      ∃ b rest, s.drop i = b :: rest ∧ inRanges ranges b.toNat = true ∧ x = (i + 1, caps) :=
  mem_oneRune (asciiOnly_inRanges h)

@[simp] theorem mem_matchAt_capture {cap : Nat} {sub : Regexp} :
    x ∈ matchAt s (capture cap sub) i caps ↔
      ∃ j caps', (j, caps') ∈ matchAt s sub i caps ∧ x = (j, (cap, i, j) :: caps') := by
  simp [matchAt, eq_comm]

@[simp] theorem mem_matchAt_concat {left right : Regexp} :
    x ∈ matchAt s (concat left right) i caps ↔
      ∃ j caps', (j, caps') ∈ matchAt s left i caps ∧ x ∈ matchAt s right j caps' := by
  simp [matchAt]

/-- A `+` of an ASCII class matches a nonempty run of bytes of the class. -/
theorem mem_matchAt_plus_charClass {ranges : List (Nat × Nat)} (h : AsciiRanges ranges) :
    x ∈ matchAt s (plus (charClass ranges)) i caps ↔
      ∃ u rest, u ≠ [] ∧ (∀ b ∈ u, inRanges ranges b.toNat = true) ∧ s.drop i = u ++ rest ∧
        x = (i + u.length, caps) := by
  rw [matchAt, mem_repeatGreedy (fun _ _ _ => mem_matchAt_charClass h)]
  constructor
  · rintro ⟨u, rest, hu, -, hq, hdrop, hx⟩
    exact ⟨u, rest, hu, hq, hdrop, hx⟩
  · rintro ⟨u, rest, hu, hq, hdrop, hx⟩
    have : u.length ≤ s.length := by
      have := congrArg List.length hdrop
      simp only [List.length_drop, List.length_append] at this
      omega
    exact ⟨u, rest, hu, by omega, hq, hdrop, hx⟩

/-- A group of a nonempty run of an ASCII class, then the rest of the pattern. -/
theorem mem_matchAt_concat_capture_plus {cap : Nat} {ranges : List (Nat × Nat)} (h : AsciiRanges ranges)
    {rest : Regexp} :
    x ∈ matchAt s (concat (capture cap (plus (charClass ranges))) rest) i caps ↔
      ∃ u r, u ≠ [] ∧ (∀ b ∈ u, inRanges ranges b.toNat = true) ∧ s.drop i = u ++ r ∧
        x ∈ matchAt s rest (i + u.length) ((cap, i, i + u.length) :: caps) := by
  simp only [mem_matchAt_concat, mem_matchAt_capture, mem_matchAt_plus_charClass h, Prod.exists]
  constructor
  · rintro ⟨_, _, ⟨_, _, ⟨u, r, hu, hq, hd, hx⟩, hj⟩, hrest⟩
    simp only [Prod.mk.injEq] at hx hj
    obtain ⟨rfl, rfl⟩ := hx
    obtain ⟨rfl, rfl⟩ := hj
    exact ⟨u, r, hu, hq, hd, hrest⟩
  · rintro ⟨u, r, hu, hq, hd, hrest⟩
    exact ⟨_, _, ⟨_, _, ⟨u, r, hu, hq, hd, rfl⟩, rfl⟩, hrest⟩

/-- A literal ASCII byte, then the rest of the pattern. -/
theorem mem_matchAt_concat_literal {r : Nat} (hr : r < Utf8.runeSelf) {rest : Regexp} :
    x ∈ matchAt s (concat (literal r) rest) i caps ↔
      ∃ b tail, s.drop i = b :: tail ∧ b.toNat = r ∧ x ∈ matchAt s rest (i + 1) caps := by
  simp only [mem_matchAt_concat, mem_matchAt_literal hr, Prod.exists]
  constructor
  · rintro ⟨_, _, ⟨b, tail, hd, hb, hx⟩, hrest⟩
    simp only [Prod.mk.injEq] at hx
    obtain ⟨rfl, rfl⟩ := hx
    exact ⟨b, tail, hd, hb, hrest⟩
  · rintro ⟨b, tail, hd, hb, hrest⟩
    exact ⟨_, _, ⟨b, tail, hd, hb, rfl⟩, hrest⟩

end Nodes

/-- What is left after a match that consumed `u` from offset `i`. -/
theorem drop_add_length {s u r : Bytes} {i : Nat} (h : s.drop i = u ++ r) :
    s.drop (i + u.length) = r := by
  rw [← List.drop_drop, h, List.drop_left]

/-- The text a match consumed from offset `i`. -/
theorem slice_of_drop {s u r : Bytes} {i : Nat} (h : s.drop i = u ++ r) :
    slice s i (i + u.length) = u := by
  rw [slice, h, Nat.add_sub_cancel_left, List.take_left]

/-! ## Leftmost match -/

/-- A pattern anchored at the beginning of the text matches from offset zero only, so
`FindStringSubmatch` returns the first match from there. -/
theorem findStringSubmatch_beginText (re : Regexp) (numSubexp : Nat) (s : Bytes) :
    findStringSubmatch (concat beginText re) numSubexp s =
      (matchAt s (concat beginText re) 0 []).head?.map fun (j, caps) => submatches s numSubexp 0 j caps := by
  have hrest : ∀ i ∈ (List.range s.length).map Nat.succ,
      (matchAt s (concat beginText re) i []).head? = none := by
    intro i hi
    obtain ⟨k, -, rfl⟩ := List.mem_map.mp hi
    simp [matchAt]
  unfold findStringSubmatch
  rw [List.range_succ_eq_map, List.findSome?_cons]
  split
  · next h => exact h.symm
  · next h =>
    rw [h, List.findSome?_eq_none_iff.mpr fun i hi => by simp [hrest i hi]]

end Regexp

end Audiostrike
