import DocAudit.Console.Emoji
import DocAudit.Text.Cells
import DocAudit.Text.LetterCase

/-!
# Echo of plain text

A console shows a document without wrapping it. It replaces emoji codes, drops the characters a
terminal would act on and expands tabs.
-/

namespace DocAudit.Console

/-- Endings of an emoji code, each with the mark that selects the presentation. -/
def presentations : List (Text × Text) :=
  [("-emoji:", [Char.ofNat 0xFE0F]), ("-text:", [Char.ofNat 0xFE0E]), (":", [])]

/-- The rest of an emoji code behind its opening colon: the name in front of the first possible
ending, the mark of that ending, the code's own text and what follows. No blank may come before
the ending. -/
def codeTail? : Text → Option (Text × Text × Text × Text)
  | [] => none
  | c :: rest =>
    match presentations.find? fun ending => Text.startsWith (c :: rest) ending.1 with
    | some (ending, mark) => some ([], mark, ending, (c :: rest).drop ending.length)
    | none =>
      if Text.isBlank c then none
      else (codeTail? rest).map fun (name, mark, code, after) => (c :: name, mark, c :: code, after)

/-- What an emoji code is shown as. Case does not matter in names. A code with an unknown name
stays. -/
def shownCode (name mark code : Text) : Text :=
  match emoji? (Text.lower name) with
  | some shown => shown ++ mark
  | none => ':' :: code

/-- Replace emoji codes from left to right. Fuel is the number of characters. -/
def replaceCodes : Nat → Text → Text
  | 0, text => text
  | _ + 1, [] => []
  | fuel + 1, c :: rest =>
    if c = ':' then
      match codeTail? rest with
      | some (name, mark, code, after) => shownCode name mark code ++ replaceCodes fuel after
      | none => c :: replaceCodes fuel rest
    else c :: replaceCodes fuel rest

/-- A document as a console shows it, with the line feed at its end. -/
def echo (document : Text) : Text :=
  let shown := Text.showable (replaceCodes document.length document)
  Text.joinWith "\n" ((Text.splitOn '\n' shown).map Text.expandTabs) ++ "\n"

end DocAudit.Console
