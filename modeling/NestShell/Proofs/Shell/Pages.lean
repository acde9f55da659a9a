import NestShell.Proofs.Shell.Admission
import NestShell.Proofs.Text.Arguments

/-!
# Texts that are shown

A text is printed as whole lines, or handed to the pager where it is longer than a screen.
-/

namespace NestShell.Shell

open NestShell.Text

variable {text : String}

/-- A text as it is printed: by the pager, whatever that makes of it, where it is longer than a
screen. -/
def Desk.shown (d : Desk) (text : String) : String :=
  if Render.needsPager false d.pager d.terminal d.rows text then
    d.outside.drawing.page d.color d.columns text
  else wholeLines text

theorem page_apply (text : String) (d : Desk) :
    DeskM.page false text d = .ok .unit (d.printed (d.shown text)) := by
  unfold DeskM.page Desk.shown
  rw [bind_apply, get_apply]
  dsimp only
  split <;> rfl

/-- Source text as it is shown. -/
def Desk.highlighted (d : Desk) (language : String) (start : Option Int) (code : String) :
    String :=
  if d.color then d.outside.drawing.source d.columns language start code
  else Render.plainSource start code

theorem highlighted_apply (language : String) (start : Option Int) (code : String) (d : Desk) :
    DeskM.highlighted language start code d = .ok (d.highlighted language start code) d := by
  unfold DeskM.highlighted Desk.highlighted
  rw [bind_apply, get_apply]
  dsimp only
  split <;> rfl

theorem pageTrimmed_apply (text : String) (d : Desk) :
    DeskM.pageTrimmed false text d = .ok .unit (d.printed (d.shown (trimEndOf ['\n'] text))) :=
  page_apply _ d

section Ended

variable (ends : ∀ c ∈ text.toList.getLast?, c ≠ '\n')
include ends

theorem trimEndOf_eq : trimEndOf ['\n'] text = text := by
  have other : ∀ c ∈ text.toList.getLast?, ['\n'].contains c = false :=
    fun c last => by simpa using ends c last
  rw [trimEndOf, dropEndWhile_of_last other, String.ofList_toList]

theorem wholeLines_eq : wholeLines text = text ++ "\n" := by
  refine if_neg ?_
  unfold endsWith
  rw [List.isSuffixOf_iff_suffix]
  rintro ⟨front, same⟩
  have last := congrArg List.getLast? same
  rw [List.getLast?_append_of_ne_nil _ (by decide)] at last
  exact ends '\n' last.symm rfl

end Ended

end NestShell.Shell
