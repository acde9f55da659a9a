import Mathlib.Data.List.Basic
import NestShell.Pattern.Match

/-!
# Repetitions in patterns

A greedy repetition of any characters takes all that is left of the text, if what follows it in the
pattern accepts the end of the text: nothing makes the matcher give a character back.
-/

namespace NestShell.Pattern.Match

variable {chars : Array Char} {s : Settings} {fuel : Nat} {goal : Goal} {p : Point}

theorem nodes_nil : nodes chars (fuel + 1) s [] goal = goal := by
  rw [nodes]

theorem nodes_cons (n : Node) (ns : List Node) : nodes chars (fuel + 1) s (n :: ns) goal =
    node chars fuel s n (nodes chars fuel s ns goal) := by
  rw [nodes]

theorem node_any (dotAll : s.dotAll = true) (fuel : Nat) (goal : Goal) (p : Point) :
    node chars (fuel + 1) s .any goal p =
      if p.index < chars.size then goal { p with index := p.index + 1 } else none := by
  rw [node]
  unfold step
  by_cases more : p.index < chars.size
  · rw [Array.getElem?_eq_getElem more, dotAll, if_pos more]
    rfl
  · rw [Array.getElem?_eq_none (Nat.le_of_not_lt more), if_neg more]

/-- One more repetition of any character, where there is one. -/
theorem repeats_any_step (dotAll : s.dotAll = true) {last : Option Nat}
    (moved : last ≠ some p.index) :
    repeats chars (fuel + 3) s .greedy 0 none [.any] last goal p =
      (if p.index < chars.size then
        repeats chars (fuel + 2) s .greedy 0 none [.any] (some p.index) goal
          { p with index := p.index + 1 }
      else none).orElse fun _ => goal p := by
  have goesOn : (last == some p.index) = false := beq_eq_false_iff_ne.mpr moved
  rw [repeats]
  simp only [Nat.lt_irrefl, gt_iff_lt, if_false, goesOn, Bool.or_false]
  rw [if_neg (by decide), nodes_cons, node_any dotAll, nodes_nil]
  rfl

/-- A greedy repetition of any characters goes to the end of the text, if its goal can be reached
from there. -/
theorem repeats_any (dotAll : s.dotAll = true) {rest : Nat} (left : p.index + rest = chars.size)
    (enough : rest + 3 ≤ fuel) {last : Option Nat} (moved : last ≠ some p.index)
    (reached : (goal { p with index := chars.size }).isSome = true) :
    repeats chars fuel s .greedy 0 none [.any] last goal p =
      goal { p with index := chars.size } := by
  induction rest generalizing fuel p last with
  | zero =>
    obtain ⟨fuel, rfl⟩ := Nat.exists_eq_add_of_le' enough
    rw [Nat.zero_add, repeats_any_step dotAll moved, if_neg (by omega), Option.orElse_none, ← left,
      Nat.add_zero]
  | succ rest ih =>
    obtain ⟨fuel, rfl⟩ := Nat.exists_eq_add_of_le' (show 3 ≤ fuel by omega)
    have later : repeats chars (fuel + 2) s .greedy 0 none [.any] (some p.index) goal
        { p with index := p.index + 1 } = goal { p with index := chars.size } :=
      ih (by dsimp only; omega) (by omega) (by simp) reached
    obtain ⟨end_, found⟩ := Option.isSome_iff_exists.mp reached
    rw [repeats_any_step dotAll moved, if_pos (by omega), later, found, Option.orElse_some]

end NestShell.Pattern.Match
