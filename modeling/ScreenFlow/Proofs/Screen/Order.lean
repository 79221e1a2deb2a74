import ScreenFlow.Screen
import Mathlib.Data.List.Nodup

/-!
Items in ascending order.  Numbers other than NaN stand in one line, so that sorting items by them
keeps each item once, and keeps items of equal orders in their places.
-/

namespace ScreenFlow

namespace Binary64

/-- The place of a number in the line of the numbers: below, among or above the finite ones, and where
among these.  A NaN has no place of its own. -/
def rank : Binary64 → Int × Int
  | .finite negative mantissa exponent => (0, units negative mantissa exponent)
  | .infinite false => (1, 0)
  | .infinite true => (-1, 0)
  | .nan => (-1, 0)

/-- The first number is not above the second. -/
def AtMost (x y : Binary64) : Prop :=
  x.rank.1 < y.rank.1 ∨ x.rank.1 = y.rank.1 ∧ x.rank.2 ≤ y.rank.2

instance (x y : Binary64) : Decidable (x.AtMost y) :=
  inferInstanceAs (Decidable (_ ∨ _))

theorem AtMost.trans {x y z : Binary64} (hxy : x.AtMost y) (hyz : y.AtMost z) : x.AtMost z := by
  unfold AtMost at *
  omega

theorem atMost_total (x y : Binary64) : x.AtMost y ∨ y.AtMost x := by
  unfold AtMost
  omega

theorem lt_iff_not_atMost {x y : Binary64} (hx : x ≠ .nan) (hy : y ≠ .nan) :
    x.lt y = true ↔ ¬y.AtMost x := by
  cases x with
  | nan => exact absurd rfl hx
  | infinite first =>
      cases y with
      | nan => exact absurd rfl hy
      | infinite second => cases first <;> cases second <;> simp [lt, AtMost, rank]
      | finite n m e => cases first <;> simp [lt, AtMost, rank]
  | finite negative mantissa exponent =>
      cases y with
      | nan => exact absurd rfl hy
      | infinite second => cases second <;> simp [lt, AtMost, rank]
      | finite n m e => simp [lt, AtMost, rank]

theorem lt_asymm {x y : Binary64} (hlt : x.lt y = true) : y.lt x = false := by
  have hx : x ≠ .nan := by rintro rfl; cases hlt
  have hy : y ≠ .nan := by rintro rfl; cases x <;> cases hlt
  rw [← Bool.not_eq_true, lt_iff_not_atMost hy hx, not_not]
  exact (atMost_total x y).resolve_right ((lt_iff_not_atMost hx hy).mp hlt)

end Binary64

namespace Screen

variable {α : Type} {order : α → Binary64}

/-- Of two items with their places, the one of the lower order comes first; of equal orders, the one
at the earlier place does. -/
def ComesBefore (order : α → Binary64) (first second : α × Nat) : Prop :=
  (order first.1).lt (order second.1) = true ∨
    (order second.1).lt (order first.1) = false ∧ first.2 < second.2

/-- Each of the items once, in ascending order; items of equal orders come as they were declared. -/
def Arranged (order : α → Binary64) (items sorted : List α) : Prop :=
  ∃ placed : List (α × Nat), placed.Perm items.zipIdx ∧ placed.map Prod.fst = sorted ∧
    placed.Pairwise (ComesBefore order)

theorem ComesBefore.asymm {first second : α × Nat} (hfirst : ComesBefore order first second) :
    ¬ComesBefore order second first := by
  rintro (hlt | ⟨hle, hplace⟩)
  · rcases hfirst with hlt' | ⟨hle, -⟩
    · exact absurd hlt (by rw [Binary64.lt_asymm hlt']; decide)
    · exact absurd hlt (by rw [hle]; decide)
  · rcases hfirst with hlt | ⟨-, hplace'⟩
    · exact absurd hlt (by rw [hle]; decide)
    · omega

/-- There is one such arrangement only. -/
theorem Arranged.unique {items first second : List α} (hfirst : Arranged order items first)
    (hsecond : Arranged order items second) : first = second := by
  obtain ⟨placed, hplaced, rfl, hascending⟩ := hfirst
  obtain ⟨others, hothers, rfl, hothersAscending⟩ := hsecond
  have hsame : placed = others :=
    List.Perm.eq_of_pairwise (fun _ _ _ _ hab hba => absurd hba hab.asymm) hascending
      hothersAscending (hplaced.trans hothers.symm)
  rw [hsame]

/-! Sorting by the places of the numbers. -/

def atMost (order : α → Binary64) (first second : α) : Bool :=
  decide ((order first).AtMost (order second))

theorem atMost_trans (a b c : α) (hab : atMost order a b = true) (hbc : atMost order b c = true) :
    atMost order a c = true :=
  decide_eq_true ((of_decide_eq_true hab).trans (of_decide_eq_true hbc))

theorem atMost_total (a b : α) : (atMost order a b || atMost order b a) = true := by
  simpa [atMost] using Binary64.atMost_total (order a) (order b)

theorem not_lt_eq_atMost {first second : α} (hfirst : order first ≠ .nan)
    (hsecond : order second ≠ .nan) :
    (!(order second).lt (order first)) = atMost order first second := by
  rw [Bool.eq_iff_iff, Bool.not_eq_true', ← Bool.not_eq_true,
    Binary64.lt_iff_not_atMost hsecond hfirst, not_not, atMost, decide_eq_true_eq]

theorem byOrder_eq_mergeSort {items : List α} (hnumbers : ∀ item ∈ items, order item ≠ .nan) :
    byOrder order items = items.mergeSort (atMost order) := by
  have hmap := @List.map_mergeSort _ _ _ (atMost order) id items
    fun first hfirst second hsecond =>
      not_lt_eq_atMost (hnumbers first hfirst) (hnumbers second hsecond)
  rwa [List.map_id, List.map_id] at hmap

theorem comesBefore_of_zipIdxLE {first second : α × Nat} (hfirst : order first.1 ≠ .nan)
    (hsecond : order second.1 ≠ .nan)
    (hle : List.zipIdxLE (atMost order) first second = true) (hne : first.2 ≠ second.2) :
    ComesBefore order first second := by
  unfold List.zipIdxLE at hle
  rw [← not_lt_eq_atMost hfirst hsecond, ← not_lt_eq_atMost hsecond hfirst] at hle
  cases hbelow : (order first.1).lt (order second.1) with
  | true => exact .inl hbelow
  | false =>
      cases habove : (order second.1).lt (order first.1) with
      | true => simp [habove] at hle
      | false =>
          simp only [hbelow, habove, Bool.not_false, if_true, decide_eq_true_eq] at hle
          exact .inr ⟨habove, by omega⟩

theorem byOrder_arranged {items : List α} (hnumbers : ∀ item ∈ items, order item ≠ .nan) :
    Arranged order items (byOrder order items) := by
  rw [byOrder_eq_mergeSort hnumbers, ← List.mergeSort_zipIdx]
  have hperm := List.mergeSort_perm items.zipIdx (List.zipIdxLE (atMost order))
  have hascending := List.pairwise_mergeSort (List.zipIdxLE_trans atMost_trans)
    (@List.zipIdxLE_total _ (atMost order) atMost_total) items.zipIdx
  -- no two entries have one place, so that the places decide between equal orders
  have hplaces : ((items.zipIdx.mergeSort (List.zipIdxLE (atMost order))).map Prod.snd).Nodup := by
    rw [(hperm.map Prod.snd).nodup_iff, List.zipIdx_map_snd]
    exact List.nodup_range'
  have hnumber : ∀ entry ∈ items.zipIdx.mergeSort (List.zipIdxLE (atMost order)),
      order entry.1 ≠ .nan := fun entry hmem =>
    hnumbers entry.1 (List.fst_mem_of_mem_zipIdx (hperm.mem_iff.mp hmem))
  refine ⟨_, hperm, rfl, (hascending.and (List.pairwise_map.mp hplaces)).imp_of_mem ?_⟩
  intro first second hfirst hsecond hboth
  exact comesBefore_of_zipIdxLE (hnumber first hfirst) (hnumber second hsecond) hboth.1 hboth.2

/-- Sorting is the one arrangement of the items. -/
theorem arranged_iff {items sorted : List α} (hnumbers : ∀ item ∈ items, order item ≠ .nan) :
    Arranged order items sorted ↔ sorted = byOrder order items := by
  constructor
  · exact fun harranged => harranged.unique (byOrder_arranged hnumbers)
  · rintro rfl
    exact byOrder_arranged hnumbers

end Screen

end ScreenFlow
