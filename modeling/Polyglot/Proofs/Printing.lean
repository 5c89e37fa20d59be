import Polyglot.Proofs.Asking
import Polyglot.Proofs.Console
import Polyglot.Proofs.Handles
import Polyglot.Proofs.Naming
import Polyglot.Proofs.Records

/-! # Languages on the console

One command prints the language of a text, another one the languages of a model in the order of
their ids. Both hand them to the console as messages. Symbols on one line are printed as they are
exactly when they are bare; then what is printed for a text is a line of the list.
-/

namespace Polyglot

namespace CommandLine

open Console (IsBare)
open Markup (IsLine)
open Text (activity)

variable {c : Classifier} {model : Option Text} {maxChars : Option ℤ} {s opened : Session}

section Console

variable [Console]

/-- Holds of a command that printed a line for each of some texts and ended well. -/
def Prints (r : Result) (ts : List Text) : Prop :=
  r.out = (ts.flatMap fun t => t ++ [CodePoint.lineFeed]) ∧ r.code = 0 ∧ r.escape = none

section Print

variable {t line : Text} {messages rest : List Text}

theorem print_cons_of_ok (hline : Console.layout t = .ok line) (rest : List Text) :
    Result.print (t :: rest) =
      { Result.print rest with out := line ++ (Result.print rest).out } := by
  rw [Result.print, hline]

theorem print_cons_of_error {flaw : Console.Flaw} (hflaw : Console.layout t = .error flaw)
    (rest : List Text) : Result.print (t :: rest) = ⟨[], [], 1, some (.unshown flaw)⟩ := by
  rw [Result.print, hflaw]

variable [LawfulConsole]

theorem prints_of_isBare (hline : ∀ t ∈ messages, IsLine t) (hbare : ∀ t ∈ messages, IsBare t) :
    Prints (Result.print messages) messages := by
  induction messages with
  | nil => exact ⟨rfl, rfl, rfl⟩
  | cons t rest ih =>
      obtain ⟨ht, hrest⟩ := List.forall_mem_cons.mp hline
      obtain ⟨hfirst, hothers⟩ := List.forall_mem_cons.mp hbare
      obtain ⟨hout, hcode, hescape⟩ := ih hrest hothers
      rw [print_cons_of_ok (LawfulConsole.verbatim ht hfirst)]
      exact ⟨by rw [hout, List.flatMap_cons], hcode, hescape⟩

/-- A line has no more signs than its message, and as many only if the message is bare. -/
theorem activity_layout (ht : IsLine t) (hlayout : Console.layout t = .ok line) :
    activity line ≤ activity t ∧ (activity line = activity t → IsBare t) := by
  by_cases hbare : IsBare t
  · rw [LawfulConsole.verbatim ht hbare, Except.ok.injEq] at hlayout
    rw [← hlayout, Text.activity_append, Text.activity_lineFeed]
    exact ⟨Nat.le_refl _, fun _ => hbare⟩
  · have hless := LawfulConsole.loses ht hbare hlayout
    exact ⟨hless.le, fun hkept => absurd hkept hless.ne⟩

/-- What is printed has no more signs than the messages, and as many only if all are bare. -/
theorem activity_print (hline : ∀ t ∈ messages, IsLine t)
    (h : (Result.print messages).escape = none) :
    activity (Result.print messages).out ≤ (messages.map activity).sum ∧
      (activity (Result.print messages).out = (messages.map activity).sum →
        ∀ t ∈ messages, IsBare t) := by
  induction messages with
  | nil => exact ⟨Nat.le_refl _, fun _ => List.forall_mem_nil _⟩
  | cons t rest ih =>
      obtain ⟨ht, hrest⟩ := List.forall_mem_cons.mp hline
      cases hlayout : Console.layout t with
      | error flaw =>
          rw [print_cons_of_error hlayout] at h
          cases h
      | ok line =>
          rw [print_cons_of_ok hlayout] at h ⊢
          obtain ⟨hle, hbare⟩ := ih hrest h
          obtain ⟨hfirst, hfirstBare⟩ := activity_layout ht hlayout
          rw [List.map_cons, List.sum_cons, Text.activity_append]
          refine ⟨Nat.add_le_add hfirst hle, fun hkept => List.forall_mem_cons.mpr ⟨?_, ?_⟩⟩
          · exact hfirstBare (by omega)
          · exact hbare (by omega)

/-- Messages on one line are printed as they are exactly when they are bare. -/
theorem prints_print_iff (hline : ∀ t ∈ messages, IsLine t) :
    Prints (Result.print messages) messages ↔ ∀ t ∈ messages, IsBare t := by
  refine ⟨fun h => ?_, prints_of_isBare hline⟩
  obtain ⟨hout, -, hescape⟩ := h
  refine (activity_print hline hescape).2 ?_
  rw [hout, List.flatMap_def, Text.activity_flatten, List.map_map]
  refine congrArg List.sum (List.map_congr_left fun t _ => ?_)
  exact (Text.activity_append t _).trans (by rw [Text.activity_lineFeed, Nat.add_zero])

end Print

/-- Scores leave alone what the console is given. -/
theorem prints_showLanguage {a : Analysis} {t : Text} (ha : c.analyze t = .ok a) (scores : Bool)
    (ts : List Text) :
    Prints (showLanguage c scores t) ts ↔ Prints (Result.print [a.language]) ts := by
  rw [showLanguage, ha]
  cases scores with
  | false => exact Iff.rfl
  | true =>
      simp only [Result.withErr, if_true]
      split <;> exact Iff.rfl

variable [Limits]

/-- The text that is to be detected: the snippet, or else what is in the file, or else the input. -/
def Reads (input : Text) (opened : Session) (t : Text) : (snippet file : Option Text) → Prop
  | some snippet, _ => t = snippet
  | none, some path => ∃ content, opened.files.read (Path.ofText path) = .ok content ∧
      t = snippetOf content
  | none, none => t = Text.unifyNewlines input

/-- The command shows the language of its text. -/
theorem run_detect {input t : Text} {snippet file : Option Text}
    (hmade : (Classifier.build (draft model maxChars)).perform s = (.ok c, opened))
    (hreads : Reads input opened t snippet file) (scores : Bool) :
    (detect input snippet file model maxChars scores).run s =
      (showLanguage c scores t, opened) := by
  cases snippet with
  | some u =>
      cases hreads
      rw [detect, run_withClassifier hmade]
      rfl
  | none =>
      cases file with
      | some path =>
          obtain ⟨content, hread, rfl⟩ := hreads
          exact run_detect_file hmade hread input scores
      | none =>
          cases hreads
          rw [detect, run_withClassifier hmade]
          rfl

/-- A model whose symbols are printable. The list has a line for each symbol, in the order of the
ids, exactly when all symbols are bare, and a text with a token is given the bare symbol of its
language exactly when this one is bare, however the text is handed over. If all symbols are bare,
what is printed for a text is a line of the list. -/
theorem languages_printed_iff_bare [LawfulConsole]
    (hmade : (Classifier.build (draft model maxChars)).perform s = (.ok c, opened))
    (hprintable : ∀ symbol ∈ c.model.labels.languages, ∀ p ∈ symbol, CodePoint.isPrintable p)
    (around : Surroundings) (input : Text) :
    let languages := c.model.labels.languages
    let listed := ((perform around input (.labels model)).run s).1
    (∀ (id : ℕ) (symbol : Text), languages[id]? = some symbol ↔ c.model.labels.resolve id = .ok symbol) ∧
      (Prints listed languages ↔ ∀ symbol ∈ languages, IsBare symbol) ∧
      ∀ snippet file t scores, Reads input opened t snippet file → tokens (c.cut t) ≠ [] →
        ∃ a, c.analyze t = .ok a ∧ a.language ∈ languages ∧
          let detected :=
            ((perform around input (.detect snippet file model maxChars scores)).run s).1
          (Prints detected [a.language] ↔ IsBare a.language) ∧
            ((∀ symbol ∈ languages, IsBare symbol) →
              ∃ line ∈ Text.lines listed.out, detected.out = line ++ [CodePoint.lineFeed]) := by
  intro languages listed
  have hline : ∀ symbol ∈ languages, IsLine symbol :=
    fun symbol hsymbol => Markup.isLine_of_isPrintable (hprintable symbol hsymbol)
  have hlisted : listed = Result.print languages := by
    obtain ⟨c', hmade', hloaded⟩ :=
      exists_build_of_limit hmade (fun n (hn : n ∈ (none : Option ℤ)) => nomatch hn)
    have hrun : listed = Result.print c'.model.labels.languages :=
      congrArg Prod.fst (run_withClassifier hmade' _)
    rw [hrun, Classifier.model, hloaded]
    rfl
  refine ⟨?_, ?_, ?_⟩
  · intro id symbol
    rw [LabelTable.getElem?_languages, LabelTable.resolve_eq_ok]
  · rw [hlisted]
    exact prints_print_iff hline
  · intro snippet file t scores hreads htokens
    obtain ⟨a, ha, hconsistent⟩ := Classifier.exists_analyze (c := c)
      (Token.tokens_eq_nil_iff.not.mp htokens)
    have hdetected :
        ((perform around input (.detect snippet file model maxChars scores)).run s).1 =
          showLanguage c scores t := congrArg Prod.fst (run_detect hmade hreads scores)
    have hone : ∀ symbol ∈ [a.language], IsLine symbol :=
      List.forall_mem_singleton.mpr (hline a.language hconsistent.language_mem)
    have hprints : Prints (showLanguage c scores t) [a.language] ↔ IsBare a.language := by
      rw [prints_showLanguage ha, prints_print_iff hone, List.forall_mem_singleton]
    refine ⟨a, ha, hconsistent.language_mem, ?_⟩
    dsimp only
    rw [hdetected]
    refine ⟨hprints, fun hbare => ⟨a.language, ?_, ?_⟩⟩
    · -- No symbol holds a line feed, so the lines of the list are the symbols.
      rw [hlisted, (prints_of_isBare hline hbare).1,
        Text.lines_flatMap_feed fun symbol hsymbol hfeed => (hline symbol hsymbol _ hfeed).1 rfl]
      exact hconsistent.language_mem
    · rw [(hprints.mpr (hbare a.language hconsistent.language_mem)).1, List.flatMap_singleton]

end Console

section Usual

open scoped Limits.Usual Console.Usual

/-- A session whose only file is an asset with given languages. -/
def assetSession (languages : List Text) : Session :=
  Records.fileSession (Json.encode (Model.asset ["end"] languages [.leaf ⟨0, 1⟩]))

theorem exists_build_assetSession (languages : List Text)
    (h : ((((Classifier.build (draft (some "rows") none)).perform (assetSession languages)).1).map
      fun c => c.model.labels.languages).toOption = some languages) :
    ∃ c opened, (Classifier.build (draft (some "rows") none)).perform (assetSession languages) =
      (.ok c, opened) ∧ c.model.labels.languages = languages := by
  rcases hbuild : (Classifier.build (draft (some "rows") none)).perform (assetSession languages)
    with ⟨fault | c, opened⟩
  · rw [hbuild] at h
    cases h
  · rw [hbuild] at h
    exact ⟨c, opened, rfl, Option.some.inj h⟩

/-- Without a limit the whole text is looked at. -/
theorem cut_of_build
    (hmade : (Classifier.build (draft model none)).perform s = (.ok c, opened)) (t : Text) :
    c.cut t = t := by
  rw [Classifier.cut, (limit_of_build hmade).2, Option.map_none]

theorem bareSymbols_printed :
    let run (command : Command) :=
      ((perform ⟨.null, .null, []⟩ [] command).run (assetSession ["go", "ruby"])).1
    Prints (run (.labels (some "rows"))) ["go", "ruby"] ∧
      ∃ line ∈ Text.lines (run (.labels (some "rows"))).out,
        (run (.detect (some "end") none (some "rows") none false)).out =
          line ++ [CodePoint.lineFeed] := by
  intro run
  obtain ⟨c, opened, hmade, hlanguages⟩ :=
    exists_build_assetSession ["go", "ruby"] (by decide +kernel)
  have hsymbols : ∀ symbol ∈ ([("go" : Text), ("ruby" : Text)] : List Text),
      (symbol.all fun p => 0x20 ≤ p.val && p.val < 0x7F) ∧
        CodePoint.openBracket ∉ symbol ∧ Emoji.colon ∉ symbol := by decide
  rw [← hlanguages] at hsymbols
  have hbare : ∀ symbol ∈ c.model.labels.languages, IsBare symbol := fun symbol hsymbol =>
    Console.isBare_of_notMem (hsymbols symbol hsymbol).2.1 (hsymbols symbol hsymbol).2.2
  have htokens : tokens (c.cut "end") ≠ [] := by
    rw [cut_of_build hmade]
    decide
  obtain ⟨-, hlisted, hdetected⟩ := languages_printed_iff_bare hmade
    (fun symbol hsymbol => Text.isPrintable_of_ascii (hsymbols symbol hsymbol).1)
    ⟨.null, .null, []⟩ []
  obtain ⟨a, -, -, -, hline⟩ := hdetected (some "end") none "end" false rfl htokens
  rw [← hlanguages]
  exact ⟨hlisted.mpr hbare, hline hbare⟩

/-- The console takes a part of this printable symbol for a tag. -/
theorem taggedSymbol_cut :
    let s := assetSession ["[b]x"]
    let run (command : Command) := ((perform ⟨.null, .null, []⟩ [] command).run s).1
    ∃ c opened, (Classifier.build (draft (some "rows") none)).perform s = (.ok c, opened) ∧
      c.model.labels.languages = ["[b]x"] ∧ (∀ p ∈ ("[b]x" : Text), CodePoint.isPrintable p) ∧
      (∃ a, c.analyze "end" = .ok a ∧ a.language = "[b]x") ∧
      run (.labels (some "rows")) = Result.done "x\n" ∧
      run (.detect (some "end") none (some "rows") none false) = Result.done "x\n" := by
  intro s run
  obtain ⟨c, opened, hmade, hlanguages⟩ :=
    exists_build_assetSession ["[b]x"] (by decide +kernel)
  have hlayout : Console.layout "[b]x" = .ok "x\n" := by rfl
  obtain ⟨a, ha, hconsistent⟩ := Classifier.exists_analyze (c := c) (t := "end")
    (by rw [cut_of_build hmade]; decide)
  have hlanguage : a.language = "[b]x" := by
    have hmem := hconsistent.language_mem
    rwa [hlanguages, List.mem_singleton] at hmem
  have hprint : Result.print ["[b]x"] = Result.done "x\n" := by
    rw [print_cons_of_ok hlayout]
    rfl
  refine ⟨c, opened, hmade, hlanguages, Text.isPrintable_of_ascii (by decide),
    ⟨a, ha, hlanguage⟩, ?_, ?_⟩
  · rw [← hprint, ← hlanguages]
    exact congrArg Prod.fst (run_withClassifier hmade _)
  · have hreads : Reads [] opened "end" (some "end") none := rfl
    have hdetect := congrArg Prod.fst (run_detect hmade hreads false)
    rw [← hprint, ← hlanguage]
    refine hdetect.trans ?_
    rw [showLanguage, ha]
    rfl

end Usual

end CommandLine

end Polyglot
