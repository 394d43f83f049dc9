import ModuleReach.CommandLine.Standard
import ModuleReach.Proofs.Layout.OneLine
import ModuleReach.Proofs.Markup.Bare

/-!
# What is expected of a console

A console reads the texts in the cells of a table as markup.  A text that says nothing in it is shown as it is, a tag is not
shown, and a tag that closes what is not open is a fault.  In a table with one column each text that fits the page has a
line of its own.  These are laws on a console, and no more is used of one.  The console of the program keeps them.

## Main definitions

* `Console.ReadsMarkup` — the laws on what is shown of a text.
* `Console.ListsTexts` — the law on tables with one column.

## Main results

* `Console.shown_toString` — a number is shown as it is.
* `Console.readsMarkup_terminal`, `Console.listsTexts_terminal` — the console of the program keeps the laws.
-/

namespace ModuleReach.CommandLine.Console

open Layout (Table)
open Markup (Bare ClosesNothing IsBody)
open Text (Typewritten)

/-- Whether a console reads texts as markup, in which some names between colons stand for pictographs.  A backslash can make
ordinary text of a tag behind it, and of texts with backslashes the laws say no more than when they are no fault. -/
structure ReadsMarkup (console : Console) (isPictograph : List Char → Prop) : Prop where
  /-- A typewritten text without tags and pictographs is shown as it is. -/
  bare : ∀ s, Typewritten s → Bare isPictograph s → '\\' ∉ s → console.shown s = .ok s
  /-- Of a tag that opens something nothing is shown. -/
  opening : ∀ before body after, Typewritten before → Bare isPictograph before → '\\' ∉ before →
    Typewritten after → Bare isPictograph after → '\\' ∉ after → IsBody body → (∀ name, body ≠ '/' :: name) →
      console.shown (before ++ ('[' :: body ++ ']' :: after)) = .ok (before ++ after)
  /-- A tag that closes something is a fault if nothing is open. -/
  closing : ∀ before name after, Bare isPictograph before → '\\' ∉ before → '[' ∉ name → ']' ∉ name →
    ∃ cause, console.shown (before ++ ('[' :: '/' :: name ++ ']' :: after)) = .error cause
  /-- No other tag is a fault. -/
  closesNothing : ∀ s, ClosesNothing s → ∃ shown, console.shown s = .ok shown

/-- Whether a console puts the texts in a table with one column on a line of their own each, as they are, if they are
typewritten and fit the page.  What is above them and below depends only on the width of the column. -/
def ListsTexts (console : Console) (title heading : String) : Prop :=
  ∃ above below : Nat → List (List Char), ∀ texts : List (List Char),
    (∀ s ∈ heading.toList :: texts, Typewritten s ∧ s.length + 4 ≤ pageWidth) →
      console.table (.ofTexts title heading texts) =
        above (Table.longest (heading.toList :: texts)) ++
          texts.map (Table.boxed '│' (Table.longest (heading.toList :: texts))) ++
          below (Table.longest (heading.toList :: texts))

/-- A number is shown as it is. -/
theorem shown_toString {console : Console} {isPictograph : List Char → Prop} (h : console.ReadsMarkup isPictograph)
    (n : Nat) : console.shown (toString n).toList = .ok (toString n).toList := by
  have hdigit : ∀ c ∈ (toString n).toList, c.isDigit = true := by
    intro c hc
    rw [Nat.toString_eq_repr, Nat.toList_repr] at hc
    exact Nat.isDigit_of_mem_toDigits (by decide) (by decide) hc
  have hwritten : Typewritten (toString n).toList := by
    intro c hc
    have hbounds : '0' ≤ c ∧ c ≤ '9' := by simpa [Char.isDigit, Char.le_def] using hdigit c hc
    have hfirst : ' ' ≤ '0' := by decide
    have hlast : '9' ≤ '~' := by decide
    exact ⟨Char.le_trans hfirst hbounds.1, Char.le_trans hbounds.2 hlast⟩
  have hbare : Bare isPictograph (toString n).toList :=
    Markup.bare_of_not_mem (fun hmem => absurd (hdigit _ hmem) (by decide))
      fun hmem => absurd (hdigit _ hmem) (by decide)
  exact h.bare _ hwritten hbare fun hmem => absurd (hdigit _ hmem) (by decide)

/-! ### The console of the program -/

theorem readsMarkup_terminal : terminal.ReadsMarkup Pictograph.IsName where
  bare _ _ hbare hbackslash := Markup.plain_of_bare hbare hbackslash
  opening _ _ _ _ hbefore hbackslash _ hafter hbackslash' hbody hslash :=
    Markup.plain_of_opening hbefore hbackslash hafter hbackslash' hbody hslash
  closing _ _ after hbefore hbackslash hopen hclose :=
    Markup.exists_plain_eq_error hbefore hbackslash hopen hclose after
  closesNothing _ h := Markup.exists_plain_of_closesNothing h

theorem listsTexts_terminal (title heading : String) : terminal.ListsTexts title heading := by
  refine ⟨fun width => Layout.lines .centre .fold (width + 4) title.toList ++
      [Table.rule '┏' '━' '┳' '┓' [width + 2], Table.boxed '┃' width heading.toList,
        Table.rule '┡' '━' '╇' '┩' [width + 2]],
    fun width => [Table.rule '└' '─' '┴' '┘' [width + 2]], ?_⟩
  intro texts hfits
  exact Table.render_list hfits

end ModuleReach.CommandLine.Console
