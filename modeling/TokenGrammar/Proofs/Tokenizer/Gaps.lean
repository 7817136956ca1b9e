import TokenGrammar.Proofs.Text.Slices
import TokenGrammar.Proofs.Tokenizer.Pieces

/-! # Gaps between matches

Where the matches of a text come in order, the pieces of the text lie side by side, and the gaps
among them are the longest stretches that no match covers.

* `MaximalGap`: a stretch without covered bytes that cannot be made longer.
* `Hit.InOrder`: each match starts where the one before ended or later.
* `Hit.Covered`, `Hit.horizon`: what matches cover, and how far a scan comes.
* `Piece.Tile`: pieces that lie side by side.
* `tile_piecesFrom`, `gap_mem_piecesFrom_iff`: these are the pieces of a text. -/

namespace TokenGrammar

/-- A stretch between two offsets that is not covered and cannot be made longer. -/
structure MaximalGap (covered : Nat → Prop) (start stop : Nat) (gap : Regex.Span) : Prop where
  /-- It is not empty. -/
  nonempty : gap.start < gap.stop
  /-- It starts at the first offset or later. -/
  start_le : start ≤ gap.start
  /-- It ends at the last offset or earlier. -/
  le_stop : gap.stop ≤ stop
  /-- None of it is covered. -/
  free : ∀ offset, gap.start ≤ offset → offset < gap.stop → ¬ covered offset
  /-- What lies before it is covered. -/
  covered_before : ∀ offset, start ≤ offset → offset + 1 = gap.start → covered offset
  /-- What lies behind it is covered. -/
  covered_behind : gap.stop < stop → covered gap.stop

/-- What is covered starts with a stretch that is not empty, and the rest of it lies behind. -/
structure CoversFirst (covered later : Nat → Prop) (first last : Nat) : Prop where
  /-- The stretch is not empty. -/
  less : first < last
  /-- The stretch is covered, and so is the rest. -/
  iff : ∀ offset, covered offset ↔ (first ≤ offset ∧ offset < last) ∨ later offset
  /-- The rest lies behind the stretch. -/
  behind : ∀ offset, later offset → last ≤ offset

namespace CoversFirst

variable {covered later : Nat → Prop} {first last offset : Nat}

/-- Nothing before the stretch is covered. -/
theorem not_covered (covers : CoversFirst covered later first last) (before : offset < first) :
    ¬ covered offset := by
  rw [covers.iff]
  rintro (within | after)
  · exact absurd before (Nat.not_lt.mpr within.1)
  · have le := Nat.le_trans (Nat.le_of_lt covers.less) (covers.behind _ after)
    exact absurd before (Nat.not_lt.mpr le)

/-- Behind the stretch the rest is covered. -/
theorem iff_of_le (covers : CoversFirst covered later first last) (le : last ≤ offset) :
    covered offset ↔ later offset := by
  rw [covers.iff]
  exact or_iff_right fun within => absurd within.2 (Nat.not_lt.mpr le)

/-- All of the stretch is covered. -/
theorem covered_of_within (covers : CoversFirst covered later first last) (le : first ≤ offset)
    (less : offset < last) : covered offset :=
  (covers.iff offset).mpr (.inl ⟨le, less⟩)

end CoversFirst

namespace MaximalGap

variable {covered later : Nat → Prop} {start stop first last : Nat} {gap : Regex.Span}

/-- Where nothing is covered everything is one gap. -/
theorem iff_of_uncovered (uncovered : ∀ offset, ¬ covered offset) :
    MaximalGap covered start stop gap ↔ start < stop ∧ gap = ⟨start, stop⟩ := by
  constructor
  · intro maximal
    have starts : gap.start = start :=
      Nat.le_antisymm
        (Nat.not_lt.mp fun late =>
          uncovered _ (maximal.covered_before (gap.start - 1) (by omega) (by omega)))
        maximal.start_le
    have stops : gap.stop = stop :=
      Nat.le_antisymm maximal.le_stop
        (Nat.not_lt.mp fun early => uncovered _ (maximal.covered_behind early))
    have nonempty := maximal.nonempty
    rw [starts, stops] at nonempty
    exact ⟨nonempty, by rw [← starts, ← stops]⟩
  · rintro ⟨less, rfl⟩
    exact {
      nonempty := less
      start_le := Nat.le_refl _
      le_stop := Nat.le_refl _
      free := fun offset _ _ => uncovered offset
      covered_before := fun offset le before =>
        absurd (Nat.le_of_eq before) (Nat.not_le.mpr (Nat.lt_succ_of_le le))
      covered_behind := fun less => absurd less (Nat.lt_irrefl _) }

/-- A covered stretch ends the gap before it. -/
theorem of_front (covers : CoversFirst covered later first last) (le : last ≤ stop)
    (front : start < first) : MaximalGap covered start stop ⟨start, first⟩ where
  nonempty := front
  start_le := Nat.le_refl _
  le_stop := Nat.le_trans (Nat.le_of_lt covers.less) le
  free _ _ inside := covers.not_covered inside
  covered_before _ from_start before :=
    absurd (Nat.le_of_eq before) (Nat.not_le.mpr (Nat.lt_succ_of_le from_start))
  covered_behind _ := covers.covered_of_within (Nat.le_refl _) covers.less

/-- A gap behind a covered stretch is a gap of the whole. -/
theorem of_later (covers : CoversFirst covered later first last) (from_start : start ≤ first)
    (maximal : MaximalGap later last stop gap) : MaximalGap covered start stop gap where
  nonempty := maximal.nonempty
  start_le := Nat.le_trans from_start (Nat.le_trans (Nat.le_of_lt covers.less) maximal.start_le)
  le_stop := maximal.le_stop
  free offset inside inside' := by
    rw [covers.iff_of_le (Nat.le_trans maximal.start_le inside)]
    exact maximal.free offset inside inside'
  covered_before offset _ before := by
    by_cases inside : offset < last
    · have back := maximal.start_le
      have less := covers.less
      exact covers.covered_of_within (by omega) inside
    · rw [covers.iff_of_le (Nat.not_lt.mp inside)]
      exact maximal.covered_before offset (Nat.not_lt.mp inside) before
  covered_behind early := (covers.iff _).mpr (.inr (maximal.covered_behind early))

/-- A gap before a covered stretch is all that lies before it. -/
theorem eq_of_front (covers : CoversFirst covered later first last) (le : last ≤ stop)
    (maximal : MaximalGap covered start stop gap) (front : gap.start < first) :
    gap = ⟨start, first⟩ := by
  have less := covers.less
  have starts : gap.start = start := by
    refine Nat.le_antisymm (Nat.not_lt.mp fun late => ?_) maximal.start_le
    have before : gap.start - 1 < first := by omega
    exact covers.not_covered before (maximal.covered_before _ (by omega) (by omega))
  have stops : gap.stop = first := by
    refine Nat.le_antisymm (Nat.not_lt.mp fun late => ?_) (Nat.not_lt.mp fun early => ?_)
    · exact maximal.free first (Nat.le_of_lt front) late
        (covers.covered_of_within (Nat.le_refl _) less)
    · exact covers.not_covered early (maximal.covered_behind (by omega))
  rw [← starts, ← stops]

/-- Any other gap lies behind the covered stretch. -/
theorem later_of_back (covers : CoversFirst covered later first last) (from_start : start ≤ first)
    (maximal : MaximalGap covered start stop gap) (back : last ≤ gap.start) :
    MaximalGap later last stop gap where
  nonempty := maximal.nonempty
  start_le := back
  le_stop := maximal.le_stop
  free offset inside inside' := by
    rw [← covers.iff_of_le (Nat.le_trans back inside)]
    exact maximal.free offset inside inside'
  covered_before offset le before := by
    have less := covers.less
    exact (covers.iff_of_le le).mp (maximal.covered_before offset (by omega) before)
  covered_behind early := by
    have nonempty := maximal.nonempty
    have le : last ≤ gap.stop := by omega
    exact (covers.iff_of_le le).mp (maximal.covered_behind early)

/-- A covered stretch parts the gap before it from those behind it. -/
theorem iff_of_covers (covers : CoversFirst covered later first last) (from_start : start ≤ first)
    (le : last ≤ stop) :
    MaximalGap covered start stop gap ↔
      (start < first ∧ gap = ⟨start, first⟩) ∨ MaximalGap later last stop gap := by
  constructor
  · intro maximal
    by_cases front : gap.start < first
    · have whole := maximal.eq_of_front covers le front
      rw [whole] at front
      exact .inl ⟨front, whole⟩
    · have back : last ≤ gap.start := Nat.not_lt.mp fun within =>
        maximal.free gap.start (Nat.le_refl _) maximal.nonempty
          (covers.covered_of_within (Nat.not_lt.mp front) within)
      exact .inr (maximal.later_of_back covers from_start back)
  · rintro (⟨front, rfl⟩ | maximal)
    · exact of_front covers le front
    · exact maximal.of_later covers from_start

end MaximalGap

namespace Hit

/-- Matches that start at an offset or later and come in order, in a text of the given length. -/
def InOrder (length : Nat) : (lastStop : Nat) → List Hit → Prop
  | lastStop, [] => lastStop ≤ length
  | lastStop, hit :: hits =>
      lastStop ≤ hit.span.start ∧ hit.span.start ≤ hit.span.stop ∧ InOrder length hit.span.stop hits

/-- The matches before the one that ends the scan, if there is one. -/
def settled (hits : List Hit) : List Hit :=
  hits.takeWhile (!·.isFatal)

/-- How far a scan comes: to the match that ends it, or else to the end of the text. -/
def horizon (length : Nat) (hits : List Hit) : Nat :=
  match hits.find? isFatal with
  | some hit => hit.span.start
  | none => length

/-- Whether a match that a scan has come past covers the byte at an offset. -/
def Covered (hits : List Hit) (offset : Nat) : Prop :=
  ∃ hit ∈ settled hits, hit.span.start ≤ offset ∧ offset < hit.span.stop

/-- Without matches nothing is covered. -/
theorem not_covered_nil (offset : Nat) : ¬ Covered [] offset := by
  rintro ⟨hit, member, -⟩
  cases member

/-- Past the match that ends the scan nothing is covered. -/
theorem not_covered_cons_of_fatal {hit : Hit} (fatal : hit.isFatal = true) (hits : List Hit)
    (offset : Nat) : ¬ Covered (hit :: hits) offset := by
  rintro ⟨other, member, -⟩
  rw [settled, List.takeWhile_cons_of_neg (by rw [fatal]; decide)] at member
  cases member

/-- Any other match covers what it spans. -/
theorem covered_cons_iff {hit : Hit} (harmless : hit.isFatal = false) {hits : List Hit}
    {offset : Nat} :
    Covered (hit :: hits) offset ↔
      (hit.span.start ≤ offset ∧ offset < hit.span.stop) ∨ Covered hits offset := by
  rw [Covered, settled, List.takeWhile_cons_of_pos (by rw [harmless]; rfl)]
  simp [Covered, settled]

/-- The scan comes to the match that ends it. -/
theorem horizon_cons_of_fatal {hit : Hit} (fatal : hit.isFatal = true) (length : Nat)
    (hits : List Hit) : horizon length (hit :: hits) = hit.span.start := by
  rw [horizon, List.find?_cons_of_pos fatal]

/-- The scan comes past any other match. -/
theorem horizon_cons_of_not_fatal {hit : Hit} (harmless : hit.isFatal = false) (length : Nat)
    (hits : List Hit) : horizon length (hit :: hits) = horizon length hits := by
  rw [horizon, List.find?_cons_of_neg (by rw [harmless]; exact Bool.false_ne_true)]
  rfl

/-- Without an error at its end a scan comes to the end of the text. -/
theorem horizon_of_emptyMatch? {hits : List Hit} (unharmed : emptyMatch? hits = none)
    (length : Nat) : horizon length hits = length := by
  rw [emptyMatch?, Option.map_eq_none_iff] at unharmed
  rw [horizon, unharmed]

/-- An empty match covers nothing. -/
theorem stop_eq_of_isEmpty {hit : Hit} (empty : hit.isEmpty = true) :
    hit.span.stop = hit.span.start :=
  (beq_iff_eq.mp empty).symm

/-- A match that comes in order and is not empty covers something. -/
theorem start_lt_stop_of_solid {hit : Hit} (solid : hit.isEmpty = false)
    (le : hit.span.start ≤ hit.span.stop) : hit.span.start < hit.span.stop := by
  have apart : hit.span.start ≠ hit.span.stop := fun same => by
    rw [isEmpty, same, beq_self_eq_true] at solid
    cases solid
  omega

namespace InOrder

variable {length lastStop : Nat} {hits : List Hit}

/-- Matches that start late enough start late enough for an earlier offset. -/
theorem mono (inOrder : InOrder length lastStop hits) {earlier : Nat} (le : earlier ≤ lastStop) :
    InOrder length earlier hits := by
  cases hits with
  | nil => exact Nat.le_trans le inOrder
  | cons hit hits => exact ⟨Nat.le_trans le inOrder.1, inOrder.2⟩

/-- Without the first of them the matches are still in order. -/
theorem tail {hit : Hit} (inOrder : InOrder length lastStop (hit :: hits)) :
    InOrder length lastStop hits := by
  obtain ⟨from_last, le, rest⟩ := inOrder
  exact rest.mono (Nat.le_trans from_last le)

/-- The scan comes past the offset that the matches start from. -/
theorem le_horizon (inOrder : InOrder length lastStop hits) :
    lastStop ≤ horizon length hits := by
  induction hits with
  | nil => exact inOrder
  | cons hit hits induction =>
      cases fatal : hit.isFatal with
      | true =>
          rw [horizon_cons_of_fatal fatal]
          exact inOrder.1
      | false =>
          rw [horizon_cons_of_not_fatal fatal]
          exact induction inOrder.tail

/-- Nothing is covered before the offset that the matches start from. -/
theorem le_of_covered (inOrder : InOrder length lastStop hits) {offset : Nat}
    (covered : Covered hits offset) : lastStop ≤ offset := by
  induction hits with
  | nil => exact absurd covered (not_covered_nil offset)
  | cons hit hits induction =>
      cases fatal : hit.isFatal with
      | true => exact absurd covered (not_covered_cons_of_fatal fatal hits offset)
      | false =>
          rcases (covered_cons_iff fatal).mp covered with ⟨start, -⟩ | later
          · exact Nat.le_trans inOrder.1 start
          · exact induction inOrder.tail later

/-- A match that is not empty is what the matches cover first. -/
theorem coversFirst {hit : Hit} (inOrder : InOrder length lastStop (hit :: hits))
    (solid : hit.isEmpty = false) (harmless : hit.isFatal = false) :
    CoversFirst (Covered (hit :: hits)) (Covered hits) hit.span.start hit.span.stop where
  less := start_lt_stop_of_solid solid inOrder.2.1
  iff _ := covered_cons_iff harmless
  behind _ := inOrder.2.2.le_of_covered

end InOrder

end Hit

namespace Piece

/-- Where a piece lies. -/
def span : Piece → Regex.Span
  | .gap span => span
  | .hit found => found.span

/-- The gap, if the piece is one. -/
def gap? : Piece → Option Regex.Span
  | .gap span => some span
  | .hit _ => none

/-- Pieces that are not empty and lie side by side between two offsets. -/
def Tile : (start : Nat) → List Piece → (stop : Nat) → Prop
  | start, [], stop => start = stop
  | start, piece :: pieces, stop =>
      piece.span.start = start ∧ start < piece.span.stop ∧ Tile piece.span.stop pieces stop

/-- The gaps among pieces. -/
def gaps (pieces : List Piece) : List Regex.Span :=
  pieces.filterMap gap?

/-- A gap is among the gaps if it is a piece. -/
theorem mem_gaps_iff {pieces : List Piece} {span : Regex.Span} :
    span ∈ gaps pieces ↔ .gap span ∈ pieces := by
  rw [gaps, List.mem_filterMap]
  constructor
  · rintro ⟨piece, member, isGap⟩
    cases piece with
    | gap other =>
        cases Option.some.inj isGap
        exact member
    | hit found => cases isGap
  · intro member
    exact ⟨.gap span, member, rfl⟩

/-- A gap among what lies between two offsets is all of it. -/
theorem gap_mem_between_iff {start stop : Nat} {span : Regex.Span} :
    .gap span ∈ between start stop ↔ start < stop ∧ span = ⟨start, stop⟩ := by
  by_cases less : start < stop
  · simp [between, less]
  · simp [between, less]

/-- What lies between two offsets goes from one to the other. -/
theorem tile_between {start stop : Nat} (le : start ≤ stop) :
    Tile start (between start stop) stop := by
  by_cases less : start < stop
  · rw [between, if_pos less]
    exact ⟨rfl, less, rfl⟩
  · rw [between, if_neg less]
    exact Nat.le_antisymm le (Nat.not_lt.mp less)

/-- What lies between two offsets lies side by side with what follows. -/
theorem tile_between_append {start middle stop : Nat} {pieces : List Piece} (le : start ≤ middle)
    (tile : Tile middle pieces stop) : Tile start (between start middle ++ pieces) stop := by
  by_cases less : start < middle
  · rw [between, if_pos less]
    exact ⟨rfl, less, tile⟩
  · rw [between, if_neg less, Nat.le_antisymm le (Nat.not_lt.mp less)]
    exact tile

namespace Tile

variable {start stop : Nat} {pieces : List Piece}

/-- Pieces that lie side by side lie where they start or later. -/
theorem start_le_of_mem (tile : Tile start pieces stop) {piece : Piece} (member : piece ∈ pieces) :
    start ≤ piece.span.start ∧ piece.span.start < piece.span.stop := by
  induction pieces generalizing start with
  | nil => cases member
  | cons first rest induction =>
      obtain ⟨rfl, less, tile⟩ := tile
      rcases List.mem_cons.mp member with rfl | later
      · exact ⟨Nat.le_refl _, less⟩
      · obtain ⟨le, solid⟩ := induction tile later
        exact ⟨Nat.le_trans (Nat.le_of_lt less) le, solid⟩

/-- Pieces that lie side by side come in order. -/
theorem pairwise (tile : Tile start pieces stop) :
    pieces.Pairwise fun piece later => piece.span.stop ≤ later.span.start := by
  induction pieces generalizing start with
  | nil => exact .nil
  | cons first rest induction =>
      obtain ⟨rfl, -, tile⟩ := tile
      exact .cons (fun later member => (tile.start_le_of_mem member).1) (induction tile)

/-- Gaps among pieces that lie side by side come in order. -/
theorem pairwise_gaps (tile : Tile start pieces stop) :
    (gaps pieces).Pairwise fun gap later => gap.stop ≤ later.start := by
  rw [gaps, List.pairwise_filterMap]
  refine tile.pairwise.imp ?_
  intro piece later le span isGap span' isGap'
  cases piece with
  | hit found => cases isGap
  | gap gap =>
      cases later with
      | hit found => cases isGap'
      | gap gap' =>
          cases Option.some.inj isGap
          cases Option.some.inj isGap'
          exact le

/-- Pieces do not end before they start. -/
theorem start_le_stop (tile : Tile start pieces stop) : start ≤ stop := by
  induction pieces generalizing start with
  | nil => exact Nat.le_of_eq tile
  | cons piece pieces induction =>
      obtain ⟨-, less, rest⟩ := tile
      exact Nat.le_trans (Nat.le_of_lt less) (induction rest)

/-- Only where nothing lies do pieces end where they start. -/
theorem start_eq_stop_iff (tile : Tile start pieces stop) : start = stop ↔ pieces = [] := by
  cases pieces with
  | nil => exact iff_of_true tile rfl
  | cons piece pieces =>
      obtain ⟨-, less, rest⟩ := tile
      exact iff_of_false (Nat.ne_of_lt (Nat.lt_of_lt_of_le less rest.start_le_stop)) nofun

/-- Pieces lie side by side where those of each part do and the two parts touch. -/
theorem append_iff {front back : List Piece} :
    Tile start (front ++ back) stop ↔
      ∃ middle, Tile start front middle ∧ Tile middle back stop := by
  induction front generalizing start with
  | nil => exact ⟨fun tile => ⟨start, rfl, tile⟩, fun ⟨_, same, tile⟩ => same ▸ tile⟩
  | cons piece front induction =>
      rw [List.cons_append]
      constructor
      · rintro ⟨starts, less, rest⟩
        obtain ⟨middle, first, second⟩ := induction.mp rest
        exact ⟨middle, ⟨starts, less, first⟩, second⟩
      · rintro ⟨middle, ⟨starts, less, first⟩, second⟩
        exact ⟨starts, less, induction.mpr ⟨middle, first, second⟩⟩

end Tile

end Piece

section

variable {length lastStop : Nat} {hits : List Hit}

/-- **The pieces of a text lie side by side** up to where a scan comes. -/
theorem tile_piecesFrom (inOrder : Hit.InOrder length lastStop hits) :
    Piece.Tile lastStop (piecesFrom length lastStop hits) (Hit.horizon length hits) := by
  induction hits generalizing lastStop with
  | nil => exact Piece.tile_between inOrder
  | cons hit hits induction =>
      rcases hit.cases with ⟨empty, blank, harmless⟩ | ⟨fatal, empty, visible⟩ | ⟨solid, harmless⟩
      · rw [piecesFrom_cons_of_blank empty blank, Hit.horizon_cons_of_not_fatal harmless]
        exact induction inOrder.tail
      · rw [piecesFrom_cons_of_fatal fatal, Hit.horizon_cons_of_fatal fatal]
        exact Piece.tile_between inOrder.1
      · rw [piecesFrom_cons_of_solid solid, Hit.horizon_cons_of_not_fatal harmless]
        obtain ⟨from_last, le, rest⟩ := inOrder
        exact Piece.tile_between_append from_last
          ⟨rfl, Hit.start_lt_stop_of_solid solid le, induction rest⟩

/-- **The gaps among the pieces of a text** are the longest stretches that no match covers. -/
theorem gap_mem_piecesFrom_iff (inOrder : Hit.InOrder length lastStop hits) {gap : Regex.Span} :
    .gap gap ∈ piecesFrom length lastStop hits ↔
      MaximalGap (Hit.Covered hits) lastStop (Hit.horizon length hits) gap := by
  induction hits generalizing lastStop with
  | nil =>
      rw [MaximalGap.iff_of_uncovered Hit.not_covered_nil]
      exact Piece.gap_mem_between_iff
  | cons hit hits induction =>
      rcases hit.cases with ⟨empty, blank, harmless⟩ | ⟨fatal, empty, visible⟩ | ⟨solid, harmless⟩
      · -- An empty match covers nothing, so the gaps are those of the other matches.
        have covered : Hit.Covered (hit :: hits) = Hit.Covered hits := by
          funext offset
          rw [Hit.covered_cons_iff harmless, Hit.stop_eq_of_isEmpty empty]
          exact propext (or_iff_right fun within => absurd within.2 (Nat.not_lt.mpr within.1))
        rw [piecesFrom_cons_of_blank empty blank, Hit.horizon_cons_of_not_fatal harmless, covered]
        exact induction inOrder.tail
      · rw [piecesFrom_cons_of_fatal fatal, Hit.horizon_cons_of_fatal fatal,
          MaximalGap.iff_of_uncovered (Hit.not_covered_cons_of_fatal fatal hits)]
        exact Piece.gap_mem_between_iff
      · have covers := inOrder.coversFirst solid harmless
        obtain ⟨from_last, le, rest⟩ := inOrder
        rw [piecesFrom_cons_of_solid solid, Hit.horizon_cons_of_not_fatal harmless,
          MaximalGap.iff_of_covers covers from_last rest.le_horizon, ← Piece.gap_mem_between_iff,
          ← induction rest, List.mem_append, List.mem_cons]
        exact or_congr_right (or_iff_right nofun)

/-- What holds of the offset, of the end of the text and of the ends of every match holds of the
ends of every piece. -/
theorem span_of_mem_piecesFrom {At : Nat → Prop} (atStart : At lastStop) (atEnd : At length)
    (atHits : ∀ hit ∈ hits, At hit.span.start ∧ At hit.span.stop) {piece : Piece}
    (member : piece ∈ piecesFrom length lastStop hits) :
    At piece.span.start ∧ At piece.span.stop := by
  have between : ∀ {start stop : Nat}, At start → At stop →
      piece ∈ Piece.between start stop → At piece.span.start ∧ At piece.span.stop := by
    intro start stop atStart atStop member
    rw [Piece.between] at member
    split at member
    · rw [List.mem_singleton.mp member]
      exact ⟨atStart, atStop⟩
    · cases member
  induction hits generalizing lastStop with
  | nil => exact between atStart atEnd member
  | cons hit hits induction =>
      obtain ⟨atHit, atRest⟩ := List.forall_mem_cons.mp atHits
      rcases hit.cases with ⟨empty, blank, -⟩ | ⟨fatal, -, -⟩ | ⟨solid, -⟩
      · rw [piecesFrom_cons_of_blank empty blank] at member
        exact induction atStart atRest member
      · rw [piecesFrom_cons_of_fatal fatal] at member
        exact between atStart atHit.1 member
      · rw [piecesFrom_cons_of_solid solid, List.mem_append, List.mem_cons] at member
        rcases member with before | rfl | behind
        · exact between atStart atHit.1 before
        · exact atHit
        · exact induction atHit.2 atRest behind

end

end TokenGrammar
