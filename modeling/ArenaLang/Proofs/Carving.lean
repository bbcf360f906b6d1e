import ArenaLang.Arena.Allocate
import ArenaLang.Proofs.Rounding
import Mathlib.Order.Bounds.Defs

namespace ArenaLang

namespace Region

structure Sound (region : Region) : Prop where
  aligned : alignment ∣ region.base
  inSpace : region.base + region.capacity < Word.limit
  filled : region.cursor ≤ region.capacity

def nextOffset (layout : Layout) (region : Region) : Nat :=
  Word.roundUp (region.base + region.cursor) layout.align - region.base

def Fits (layout : Layout) (region : Region) : Prop :=
  region.nextOffset layout + layout.size ≤ region.capacity

instance (layout : Layout) (region : Region) : Decidable (region.Fits layout) :=
  inferInstanceAs (Decidable (_ ≤ _))

def carved (layout : Layout) (region : Region) : Region :=
  { region with cursor := region.nextOffset layout + layout.size }

theorem base_add_nextOffset (layout : Layout) (region : Region) :
    region.base + region.nextOffset layout =
      Word.roundUp (region.base + region.cursor) layout.align := by
  have above := Word.le_roundUp (region.base + region.cursor) layout.align_pos
  unfold nextOffset
  omega

theorem cursor_le_nextOffset (layout : Layout) (region : Region) :
    region.cursor ≤ region.nextOffset layout := by
  have above := Word.le_roundUp (region.base + region.cursor) layout.align_pos
  unfold nextOffset
  omega

theorem nextOffset_aligned (layout : Layout) (region : Region) :
    layout.align ∣ region.base + region.nextOffset layout := by
  rw [base_add_nextOffset]
  exact Word.dvd_roundUp _ _

theorem nextOffset_le {layout : Layout} {region : Region} {offset : Nat} (behind : region.cursor ≤ offset)
    (aligned : layout.align ∣ region.base + offset) : region.nextOffset layout ≤ offset := by
  have bound := Word.roundUp_le layout.align_pos aligned (Nat.add_le_add_left behind region.base)
  unfold nextOffset
  omega

theorem Sound.carved {layout : Layout} {region : Region} (sound : region.Sound)
    (fits : region.Fits layout) : (region.carved layout).Sound :=
  ⟨sound.aligned, sound.inSpace, fits⟩

theorem Sound.write {region : Region} (sound : region.Sound) (offset : Nat) (cells : List Cell) :
    (region.write offset cells).Sound :=
  ⟨sound.aligned, sound.inSpace, sound.filled⟩

theorem Sound.fresh {base capacity : Nat} (aligned : alignment ∣ base)
    (inSpace : base + capacity < Word.limit) : (Region.fresh base capacity).Sound :=
  ⟨aligned, inSpace, Nat.zero_le _⟩

end Region

theorem Layout.align_le_limit (layout : Layout) : layout.align ≤ Word.limit := by
  have bounded := layout.bounded
  simp only [Layout.bound, Word.limit] at bounded ⊢
  omega

namespace Region

theorem isLeast_nextOffset (region : Region) (layout : Layout) :
    IsLeast {offset | region.cursor ≤ offset ∧ layout.align ∣ region.base + offset} (region.nextOffset layout) := by
  constructor
  · exact ⟨region.cursor_le_nextOffset layout, region.nextOffset_aligned layout⟩
  · rintro offset ⟨behind, aligned⟩
    exact nextOffset_le behind aligned

section

variable {region : Region} {layout : Layout} (filled : region.cursor ≤ region.capacity)
  (inSpace : region.base + region.capacity < Word.limit)

include inSpace

theorem not_fits_of_raised (overflow : Word.limit ≤ region.base + region.cursor + (layout.align - 1)) :
    ¬region.Fits layout := by
  have rounded := Word.limit_le_roundUp layout.powerOfTwo layout.align_le_limit overflow
  have offset := base_add_nextOffset layout region
  unfold Fits
  omega

theorem not_fits_of_size (overflow : Word.limit ≤ region.nextOffset layout + layout.size) :
    ¬region.Fits layout := by
  unfold Fits
  omega

include filled

theorem base_add_cursor_lt : region.base + region.cursor < Word.limit :=
  Nat.lt_of_le_of_lt (Nat.add_le_add_left filled _) inSpace

theorem carve_of_inSpace (layout : Layout) :
    region.carve layout =
      .ok (if region.Fits layout then some (region.nextOffset layout, region.carved layout)
        else none) := by
  have offset := base_add_nextOffset layout region
  unfold carve
  simp only [Word.add?, if_pos (base_add_cursor_lt filled inSpace)]
  rw [Word.roundUp?_eq layout.powerOfTwo layout.align_le_limit, ← offset]
  by_cases raised : region.base + region.cursor + (layout.align - 1) < Word.limit
  · simp only [if_pos raised, Nat.not_lt.mpr (Nat.le_add_right _ _), if_false,
      Nat.add_sub_cancel_left]
    by_cases small : region.nextOffset layout + layout.size < Word.limit
    · simp only [if_pos small]
      by_cases fits : region.Fits layout
      · rw [if_pos fits, if_neg (Nat.not_lt.mpr fits), carved]
      · rw [if_neg fits, if_pos (Nat.not_le.mp fits)]
    · simp only [if_neg small, if_neg (not_fits_of_size inSpace (Nat.not_lt.mp small))]
  · simp only [if_neg raised, if_neg (not_fits_of_raised inSpace (Nat.not_lt.mp raised))]

end

theorem carve_eq {region : Region} (sound : region.Sound) (layout : Layout) :
    region.carve layout =
      .ok (if region.Fits layout then some (region.nextOffset layout, region.carved layout)
        else none) :=
  carve_of_inSpace sound.filled sound.inSpace layout

/-- In any region within the address space, carving takes the first aligned offset from the cursor on,
just if the block fits there. The address is found by clearing bits, and each check on words that
refuses a block refuses one that does not fit. -/
theorem carves_exactly_first_fit {region : Region} (filled : region.cursor ≤ region.capacity)
    (inSpace : region.base + region.capacity < 2 ^ 64) (layout : Layout) :
    ∃ offset, IsLeast {offset | region.cursor ≤ offset ∧ layout.align ∣ region.base + offset} offset ∧
      (offset + layout.size ≤ region.capacity →
        region.carve layout = .ok (some (offset, { region with cursor := offset + layout.size }))) ∧
      (region.capacity < offset + layout.size → region.carve layout = .ok none) ∧
      Word.add? region.base region.cursor = some (region.base + region.cursor) ∧
      (∀ raised, Word.add? (region.base + region.cursor) (layout.align - 1) = some raised →
        raised &&& Word.complement (layout.align - 1) = region.base + offset) ∧
      (Word.add? (region.base + region.cursor) (layout.align - 1) = none →
        region.capacity < offset + layout.size) ∧
      (Word.add? offset layout.size = none → region.capacity < offset + layout.size) := by
  have carving := carve_of_inSpace filled inSpace layout
  refine ⟨region.nextOffset layout, region.isLeast_nextOffset layout, ?_, ?_, ?_, ?_, ?_, ?_⟩
  · intro fits
    have room : region.Fits layout := fits
    rw [carving, if_pos room, carved]
  · intro full
    have none : ¬region.Fits layout := Nat.not_le.mpr full
    rw [carving, if_neg none]
  · rw [Word.add?, if_pos (base_add_cursor_lt filled inSpace)]
  · intro raised sum
    obtain ⟨word, rfl⟩ := Word.add?_eq_some_iff.mp sum
    rw [Word.raised_land_complement layout.powerOfTwo layout.align_le_limit word, base_add_nextOffset]
  · intro overflow
    exact Nat.not_le.mp (not_fits_of_raised inSpace (Word.add?_eq_none_iff.mp overflow))
  · intro overflow
    exact Nat.not_le.mp (not_fits_of_size inSpace (Word.add?_eq_none_iff.mp overflow))

/-- A block that takes the last bytes of a region at the top of the address space, where the cursor is
aligned already though the region is not. -/
theorem carves_exactly_first_fit_top :
    let region : Region := ⟨2 ^ 64 - 41, 40, 9, .empty⟩
    let layout : Layout := ⟨31, 32, ⟨5, rfl⟩, by decide⟩
    region.cursor ≤ region.capacity ∧ region.base + region.capacity < 2 ^ 64 ∧
      IsLeast {offset | region.cursor ≤ offset ∧ layout.align ∣ region.base + offset} 9 ∧
      region.carve layout = .ok (some (9, { region with cursor := 40 })) := by
  intro region layout
  have filled : region.cursor ≤ region.capacity := by decide
  have inSpace : region.base + region.capacity < 2 ^ 64 := by decide
  obtain ⟨offset, least, carved, _⟩ := carves_exactly_first_fit filled inSpace layout
  have here : IsLeast {offset | region.cursor ≤ offset ∧ layout.align ∣ region.base + offset} 9 :=
    ⟨⟨by decide, by decide⟩, fun other behind => behind.1⟩
  obtain rfl : offset = 9 := Nat.le_antisymm (least.2 here.1) (here.2 least.1)
  exact ⟨filled, inSpace, here, carved (by decide)⟩

theorem address_eq {start distance : Nat} (word : start + distance < Word.limit) :
    address start distance = .ok (start + distance) := by
  rw [address, Word.add?, if_pos word]

theorem reclaim?_eq {region : Region} (sound : region.Sound) {offset size : Nat}
    (positive : 0 < size) (carved : offset + size ≤ region.cursor) :
    region.reclaim? offset size =
      .ok (if offset + size = region.cursor then some { region with cursor := offset } else none) := by
  have inSpace := sound.inSpace
  have filled := sound.filled
  have contained : region.contains offset = .ok true := by
    rw [contains, address_eq (by omega), address_eq (by omega)]
    simp only [bind, Except.bind, pure, Except.pure, Except.ok.injEq, decide_eq_true_eq]
    omega
  have atCursor : region.endsAtCursor offset size = .ok (decide (offset + size = region.cursor)) := by
    rw [endsAtCursor, address_eq (by omega), address_eq (by omega)]
    simp only [bind, Except.bind, pure, Except.pure]
    rw [address_eq (by omega), Nat.add_assoc]
    simp only [Nat.add_left_cancel_iff]
  unfold reclaim?
  rw [contained, atCursor]
  simp only [bind, Except.bind, pure, Except.pure, if_true]
  by_cases last : offset + size = region.cursor
  · have room : ¬region.cursor < size := by omega
    have back : region.cursor - size = offset := by omega
    simp only [last, decide_true, if_true, rewind, if_neg room, back]
  · simp only [last, decide_false, Bool.false_eq_true, if_false]

end Region

end ArenaLang
