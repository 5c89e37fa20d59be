import Polyglot.Markup

/-! # Consoles

A message is handed to a console, which may read more in it than its words and makes lines of it. A
program does not depend on how this is done; it only notices that a message cannot be shown.
-/

namespace Polyglot

/-- What messages are handed to. -/
class Console where
  /-- Why a message cannot be shown. -/
  Flaw : Type
  /-- The words of a flaw. -/
  words : Flaw → Text
  /-- The emoji that a name between colons stands for. -/
  emoji? : Text → Option Text
  /-- The lines that a message makes. -/
  layout : Text → Except Flaw Text

namespace Console.Usual

/-- The console that reads tags and codes. -/
scoped instance usual : Console where
  Flaw := Markup.Flaw
  words := Markup.Flaw.message
  emoji? := Emoji.named?
  layout := Markup.layout

end Console.Usual

end Polyglot
