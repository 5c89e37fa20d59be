import Polyglot.CommandLine.Run
import Polyglot.Proofs.Analysis
import Polyglot.Proofs.Nesting
import Polyglot.Proofs.Session
import Polyglot.Proofs.Spacing

/-! # Ways of reading a file

A file may be open for its bytes or as text, or the command may read it. Each way has its own text:
ends of line stay or become line feeds. Ends of line are blanks, and so are the line feeds that
stand for them, so all these texts have the same tokens. Where the length of a text is not limited,
the ways of reading a file agree on its analysis.
-/

namespace Polyglot

namespace Token

open Text

/-- Unifying the ends of line behind a text keeps the singles of the whole. When a line feed is left
out, the one in its place is the last sign of that text, so that no single goes on across it. -/
theorem singles_append_unifyNewlinesFrom {a : Text} {afterReturn : Bool}
    (hreturn : afterReturn → ∀ b, Parted a b) (t : Text) :
    singles (a ++ unifyNewlinesFrom afterReturn t) = singles (a ++ t) := by
  have hfeed : Text.isBlank [CodePoint.lineFeed] := by decide
  have hblank : Text.isBlank [CodePoint.carriageReturn] := by decide
  induction t generalizing a afterReturn with
  | nil => rfl
  | cons c t ih =>
      have hsplit (d : CodePoint) (u : Text) : a ++ d :: u = a ++ [d] ++ u := by
        rw [List.append_assoc, List.singleton_append]
      have hplain (u : Text) : singles (u ++ unifyNewlinesFrom false t) = singles (u ++ t) :=
        ih fun h => absurd h Bool.false_ne_true
      rw [unifyNewlinesFrom]
      split_ifs with hc hlate
      · have hparted := parted_append_blanks hfeed (List.cons_ne_nil _ _) a
        rw [hc, hsplit, ih fun _ => hparted, singles_append_blanks hfeed (List.cons_ne_nil _ _),
          hsplit, singles_append_blanks hblank (List.cons_ne_nil _ _)]
      · rw [hplain, hlate.2, hsplit, singles_insert_blanks hfeed (hreturn hlate.1 t)]
      · rw [hsplit, hplain, ← hsplit]

theorem singles_unifyNewlines (t : Text) : singles (unifyNewlines t) = singles t := by
  show singles ([] ++ unifyNewlinesFrom false t) = singles ([] ++ t)
  exact singles_append_unifyNewlinesFrom (fun h => absurd h Bool.false_ne_true) t

/-- Ends of line that become line feeds leave the tokens as they are. -/
theorem tokens_unifyNewlines (t : Text) : tokens (unifyNewlines t) = tokens t :=
  tokens_congr (singles_unifyNewlines t)

end Token

namespace CommandLine

variable [Console] {c : Classifier} {model : Option Text} {maxChars : Option Int}
  {s opened : Session}

theorem run_withClassifier [Limits]
    (hmade : (Classifier.build (draft model maxChars)).perform s = (.ok c, opened))
    (next : Classifier → Program) :
    (withClassifier model maxChars next).run s = (next c).run opened := by
  simp only [withClassifier, StateT.run_bind, StateT.run_get, pure_bind, hmade, StateT.run_set]

theorem run_attempt {α : Type} {a : Action α} {x : α} {s' : Session}
    (h : a.perform s = (.ok x, s')) (next : α → Program) :
    (attempt a next).run s = (next x).run s' := by
  simp only [attempt, StateT.run_bind, StateT.run_get, pure_bind, h, StateT.run_set]

/-- A file is read once the classifier is made, and the language of its text is shown. -/
theorem run_detect_file [Limits] {path : Text} {content : Bytes}
    (hmade : (Classifier.build (draft model maxChars)).perform s = (.ok c, opened))
    (hread : opened.files.read (Path.ofText path) = .ok content) (input : Text) (scores : Bool) :
    (detect input none (some path) model maxChars scores).run s =
      (showLanguage c scores (snippetOf content), opened) := by
  have hcontent : (Action.readFile (Path.ofText path)).perform opened = (.ok content, opened) := by
    rw [Action.perform_readFile, hread]
  rw [detect, run_withClassifier hmade]
  exact run_attempt hcontent _

theorem showLanguage_congr {t u : Text} (h : c.analyze t = c.analyze u) (scores : Bool) :
    showLanguage c scores t = showLanguage c scores u := by
  rw [showLanguage, showLanguage, h]

end CommandLine

theorem Classifier.classify_congr {c : Classifier} {t u : Text} (h : c.analyze t = c.analyze u) :
    c.classify t = c.classify u := by
  rw [classify, classify, h]

namespace Source

open CommandLine (draft detect showLanguage snippetOf)

variable {c : Classifier} {content : Bytes} {t : Text}

theorem read_textFile (h : Utf8.decode content = .ok t) :
    (Source.textFile content 0).read = .ok (Text.unifyNewlines t) := by
  have hfile : decodeFile (content.drop 0) = .ok (Text.unifyNewlines t) := by
    rw [List.drop_zero, decodeFile, h]
  rw [textFile, hfile]
  rfl

/-- Where the length of a text is not limited, a file has the same tokens whether it is open for its
bytes or read by the command, and so the same outcome, be it a language or the refusal of an empty
text. When it can be decoded, this is also its outcome when it is open as text. -/
theorem handles_agree [Limits] [Console] (hlimit : c.settings.maxInputChars = none)
    (content : Bytes) :
    ∃ t outcome, (Source.binaryFile content 0).read = .ok t ∧
      tokens t = tokens (snippetOf content) ∧
      ((∃ language, outcome = .ok language) ∨ outcome = .error .emptyInput) ∧
      c.classifySource (.binaryFile content 0) = outcome ∧
      c.classify (snippetOf content) = outcome ∧
      (∀ input path model maxChars scores s opened,
        (Classifier.build (draft model maxChars)).perform s = (.ok c, opened) →
        opened.files.read (Path.ofText path) = .ok content →
          (detect input none (some path) model maxChars scores).run s =
            (showLanguage c scores t, opened)) ∧
      ∀ u, Utf8.decode content = .ok u →
        ∃ v, (Source.textFile content 0).read = .ok v ∧ tokens v = tokens t ∧
          c.classifySource (.textFile content 0) = outcome := by
  set t := Utf8.decodeLenient content with ht
  have hbinary : (Source.binaryFile content 0).read = .ok t := rfl
  have htokens : tokens (snippetOf content) = tokens t := Token.tokens_unifyNewlines t
  have hanalysis : c.analyze (snippetOf content) = c.analyze t :=
    Classifier.analyze_congr hlimit (Token.singles_unifyNewlines t)
  refine ⟨t, c.classify t, hbinary, htokens.symm, c.classify_cases t,
    classifySource_of_read hbinary c, Classifier.classify_congr hanalysis, ?_, ?_⟩
  · intro input path model maxChars scores s opened hmade hread
    rw [CommandLine.run_detect_file hmade hread, CommandLine.showLanguage_congr hanalysis]
  · -- Strict decoding gives the text of lenient decoding, and then the ends of line are unified.
    intro u hu
    have htext : t = u := Utf8.decodeLenient_of_decode hu
    have hsame : Text.unifyNewlines u = snippetOf content := by rw [snippetOf, ← ht, htext]
    refine ⟨_, read_textFile hu, ?_, ?_⟩
    · rw [hsame, htokens]
    · rw [classifySource_of_read (read_textFile hu), hsame, Classifier.classify_congr hanalysis]

open scoped Limits.Usual Console.Usual in
theorem brokenLines_agree :
    ∃ m, Model.ofJson Model.inMemory Model.smallAsset = .ok m ∧
      let c := Classifier.mk .standard ⟨m, 0⟩
      c.classifySource (.textFile (Utf8.encode "end\r\nx") 0) =
          c.classify (snippetOf (Utf8.encode "end\r\nx")) ∧
        c.classifySource (.binaryFile [0x78, 0x0D, 0xFF] 0) =
          c.classify (snippetOf [0x78, 0x0D, 0xFF]) := by
  obtain ⟨m, hread⟩ : ∃ m, Model.ofJson Model.inMemory Model.smallAsset = .ok m := ⟨_, rfl⟩
  have hagree := handles_agree (c := .mk .standard ⟨m, 0⟩) rfl
  obtain ⟨t, outcome, -, -, -, -, hcommand, -, htext⟩ := hagree (Utf8.encode "end\r\nx")
  obtain ⟨v, -, -, hsource⟩ := htext "end\r\nx" rfl
  obtain ⟨t', outcome', -, -, -, hbytes, hcommand', -, -⟩ := hagree [0x78, 0x0D, 0xFF]
  exact ⟨m, hread, hsource.trans hcommand.symm, hbytes.trans hcommand'.symm⟩

end Source

end Polyglot
