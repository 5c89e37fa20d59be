import Polyglot.Console
import Polyglot.Proofs.Red

/-! # Laws of consoles

A console reads tags and the codes of emoji in a message and does not show them as they are; any
other message on one line comes out as it is. A message may begin with words in red, which come out
first. Commands need no more of a console, and the usual one obeys these laws.
-/

namespace Polyglot

open Markup (IsLine IsQuiet)
open Text (activity)

namespace Console

variable [Console] {t : Text}

/-- A text that means nothing but itself: no opening bracket opens a tag or stands behind a
backslash, and no code stands for an emoji. -/
structure IsBare (t : Text) : Prop where
  bracket : IsQuiet 0 t
  code : ∀ body ∈ Emoji.codes t, Console.emoji? body = none

/-- A text without an opening bracket and a colon is bare. -/
theorem isBare_of_notMem (hbracket : CodePoint.openBracket ∉ t) (hcolon : Emoji.colon ∉ t) :
    IsBare t := by
  refine ⟨Markup.isQuiet_of_notMem hbracket 0, fun body hbody => ?_⟩
  rw [Emoji.codes, Emoji.codesFrom_eq_nil hcolon] at hbody
  cases hbody

/-- Words that mean nothing but themselves, also where a tag follows. -/
structure IsHeading (words : Text) : Prop where
  ne_nil : words ≠ []
  line : IsLine words
  bare : IsBare words
  bracket : CodePoint.openBracket ∉ words
  backslash : CodePoint.backslash ∉ words

end Console

open Console (IsBare IsHeading)

/-- What commands need of a console. -/
class LawfulConsole [Console] : Prop where
  /-- What has no meaning is shown as it is. -/
  verbatim : ∀ {t}, IsLine t → IsBare t → Console.layout t = .ok (t ++ [CodePoint.lineFeed])
  /-- What has a meaning is not: of the brackets, backslashes and colons of a message, one is gone
  at least. -/
  loses : ∀ {t line}, IsLine t → ¬IsBare t → Console.layout t = .ok line →
    activity line < activity t
  /-- Words in red are shown in front of what follows them. -/
  red_first : ∀ {words rest line}, IsHeading words →
    Console.layout (Markup.red words ++ rest) = .ok line → words <+: line
  /-- Behind them, only tags keep a message from being shown. -/
  red_shown : ∀ {words rest}, IsHeading words → IsQuiet 0 rest →
    ∃ line, Console.layout (Markup.red words ++ rest) = .ok line
  /-- What has no meaning is shown behind them as it is. -/
  red_verbatim : ∀ {words rest}, IsHeading words → IsLine rest → IsBare rest →
    Console.layout (Markup.red words ++ rest) = .ok (words ++ rest ++ [CodePoint.lineFeed])

namespace Console.Usual

theorem replace_of_isBare {t : Text} (hline : IsLine t) (hbare : IsBare t) :
    (Emoji.replace t).filter (fun c => !Markup.isLeftOut c) = t := by
  rw [Emoji.replace_of_unnamed hbare.code, Markup.filter_of_isLine hline]

/-- The console that reads tags and codes obeys the laws. -/
scoped instance lawful : LawfulConsole where
  verbatim hline hbare := Markup.layout_of_isQuiet hline hbare.bracket hbare.code
  loses {t line} _ hloud hlayout := by
    refine lt_of_le_of_ne (Markup.activity_layout_le hlayout) fun hkept => hloud ?_
    obtain ⟨hbracket, hcode⟩ := Markup.isQuiet_of_activity hlayout hkept
    exact ⟨hbracket, hcode⟩
  red_first hwords hlayout :=
    Markup.prefix_layout_red hwords.ne_nil hwords.bracket hwords.backslash
      (replace_of_isBare hwords.line hwords.bare) (fun h => (hwords.line _ h).2.1 rfl)
      (fun h => (hwords.line _ h).1 rfl) hlayout
  red_shown hwords hquiet :=
    Markup.exists_layout_red hwords.ne_nil hwords.bracket hwords.backslash
      (replace_of_isBare hwords.line hwords.bare) hquiet
  red_verbatim hwords hline hbare :=
    Markup.layout_red hwords.ne_nil hwords.bracket hwords.backslash
      (replace_of_isBare hwords.line hwords.bare) hwords.line hline hbare.bracket hbare.code

end Console.Usual

end Polyglot
