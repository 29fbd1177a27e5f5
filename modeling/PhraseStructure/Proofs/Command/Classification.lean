import PhraseStructure.Command.Classify
import PhraseStructure.Command.GrammarFile
import PhraseStructure.Proofs.Grammar.RuleLines
import PhraseStructure.Proofs.Text.LineBreaks

/-!
# The command for grammars and the grammar in a file

A file of rules is read in two ways. Read as a grammar, it is divided into rules at its line feeds;
the command divides it at every line break. Both read the same rules if no line up to a line feed
has something on either side of another line break (`grammarOf_eq_ok_iff`). Where a line has, the
two cannot both find a grammar (`not_both_ok`). So they agree exactly if there is no such line, or
if both refuse the file (`run_agrees_iff`).
-/

namespace PhraseStructure.Command.Classify

open Text

variable {a : Arguments} {inputs rest : Inputs} {args : List String} {name : String}
  {bytes : List UInt8} {cs : List Char} {g : Grammar} {fault : Fault} {text : String}

/-- The conventions that the options of a command line ask for. -/
def conventionsOf (a : Arguments) : Conventions where
  delimiter := .text ((a.value? "delimiter").getD Production.arrow)
  brackets := .text ((a.value? "brackets").getD Brackets.square.text)

/-- The start symbol that the options of a command line ask for. -/
def startOf (a : Arguments) : Datum :=
  match a.value? "start" with
  | some s => .text s
  | none => .null

/-- The grammar in a file, under the options of a command line. -/
def fileGrammar (inputs : Inputs) (a : Arguments) (name : String) : Except Fault Grammar :=
  (readGrammar inputs (.text name) (.text "utf8") (conventionsOf a) (startOf a)).result

/-- What is printed for a grammar. -/
def reportOf (a : Arguments) (g : Grammar) : Except Fault String :=
  if a.hasFlag "info" then g.summary
  else do return joinStrings "\n" ((← g.classify).map Grammar.classLine)

/-- The start symbol that is asked for is a text, if there is one. -/
theorem startOf_cases (a : Arguments) : startOf a = .null ∨ ∃ s, startOf a = .text s := by
  unfold startOf
  split
  · next s _ => exact .inr ⟨s, rfl⟩
  · exact .inl rfl

/-- The lines of a file are the lines of one text of rules. -/
theorem grammarOf_eq (a : Arguments) (lines : List (List Char)) : grammarOf a lines =
    (Grammar.make (conventionsOf a) (.given (.text (String.ofList (join ['\n'] lines))))
      (startOf a)).result := rfl

/-- A grammar is read from a file by making it of the text of the file. -/
theorem fileGrammar_eq (hopen : inputs.open? name = .ok (bytes, rest))
    (hdecode : decodeText .utf8 bytes = .ok cs) : fileGrammar inputs a name =
      (Grammar.make (conventionsOf a) (.given (.text (String.ofList cs))) (startOf a)).result := by
  have hcheck : checkEncoding (.text "utf8") = .ok () := rfl
  have hname : Encoding.ofName? "utf8" = some .utf8 := rfl
  have hbytes : openGiven inputs (.text name) (.text "utf8") = .ok bytes := by
    simp only [openGiven, hcheck, hopen]
    split <;> rfl
  have hrules : decodeRules (.text "utf8") bytes = .ok (.given (.text (String.ofList cs))) := by
    simp only [decodeRules, hname, hdecode]
    rfl
  have hread : openGiven inputs (.text name) (.text "utf8") >>= decodeRules (.text "utf8") =
      .ok (.given (.text (String.ofList cs))) := by
    rw [hbytes]
    exact hrules
  rw [fileGrammar, readGrammar, hread]

section Dividing

/-- The rules of the command are the parts of the lines up to the line feeds. -/
theorem ruleLines_lines (cs : List Char) :
    Grammar.ruleLines (String.ofList (join ['\n'] (Text.lines cs))) =
      ((splitAtFeeds cs).flatMap lineParts).map String.ofList := by
  rw [← filter_lines, ← filter_splitAtFeeds_lines, Grammar.ruleLines, String.toList_ofList]
  rfl

/-- Where no line is cut, both ways of reading find the same grammar. -/
theorem grammarOf_eq_ok_iff (hopen : inputs.open? name = .ok (bytes, rest))
    (hdecode : decodeText .utf8 bytes = .ok cs) (huncut : IsUncut cs) :
    grammarOf a (Text.lines cs) = .ok g ↔ fileGrammar inputs a name = .ok g := by
  have hsame : List.Forall₂ (fun line line' : String =>
      removeBlanks line'.toList = removeBlanks line.toList)
      (Grammar.ruleLines (String.ofList cs))
      (Grammar.ruleLines (String.ofList (join ['\n'] (Text.lines cs)))) := by
    rw [ruleLines_lines, Grammar.ruleLines, String.toList_ofList, List.forall₂_map_left_iff,
      List.forall₂_map_right_iff]
    simp only [String.toList_ofList]
    exact forall₂_lineParts huncut
  rw [grammarOf_eq, fileGrammar_eq hopen hdecode]
  exact (Grammar.make_text_congr rfl fun ps => Grammar.lineReadings_congr rfl hsame).symm

/-- A line that is read as a rule has one part if each of its parts is read as a rule. -/
theorem length_lineParts_le {line : List Char} {d : String} {sides : Sides}
    (hline : Sides.read (String.ofList line) d = .ok sides)
    (hparts : ∀ part ∈ lineParts line, ∃ sides, Sides.read (String.ofList part) d = .ok sides) :
    (lineParts line).length ≤ 1 := by
  have hdelimiter : ∀ part ∈ lineParts line, removeBlanks d.toList <:+: removeBlanks part := by
    intro part hpart
    obtain ⟨_, hread⟩ := hparts part hpart
    simpa using Sides.infix_of_read hread
  have hsplit := flatMap_lineParts line
  rcases hcut : lineParts line with - | ⟨first, - | ⟨second, others⟩⟩
  · simp
  · simp
  · rw [hcut] at hsplit hdelimiter
    rw [List.flatMap_cons, List.flatMap_cons] at hsplit
    have hsecond : removeBlanks d.toList <:+:
        removeBlanks second ++ others.flatMap removeBlanks :=
      (hdelimiter second (by simp)).trans (List.prefix_append _ _).isInfix
    have hrule : removeBlanks (String.ofList line).toList =
        removeBlanks first ++ (removeBlanks second ++ others.flatMap removeBlanks) := by
      rw [String.toList_ofList, hsplit]
    exact absurd hline (Sides.not_read_append hrule (hdelimiter first (by simp)) hsecond)

/-- Both ways of reading find a grammar only if no line is cut. -/
theorem not_both_ok {g' : Grammar} (hopen : inputs.open? name = .ok (bytes, rest))
    (hdecode : decodeText .utf8 bytes = .ok cs) (hcommand : grammarOf a (Text.lines cs) = .ok g)
    (hfile : fileGrammar inputs a name = .ok g') : IsUncut cs := by
  rw [grammarOf_eq] at hcommand
  rw [fileGrammar_eq hopen hdecode] at hfile
  obtain ⟨ps, hread, -⟩ := (Grammar.make_text_iff rfl).mp hcommand
  obtain ⟨ps', hread', -⟩ := (Grammar.make_text_iff rfl).mp hfile
  have hsides : ∀ t (ps : List Production),
      Grammar.lineReadings (conventionsOf a) t = ps.map .ok → ∀ line ∈ Grammar.ruleLines t,
        ∃ sides, Sides.read line ((a.value? "delimiter").getD Production.arrow) = .ok sides := by
    intro t ps hps line hline
    have hmem : (Grammar.empty (conventionsOf a)).readRule (.text line) ∈
        Grammar.lineReadings (conventionsOf a) t := List.mem_map_of_mem hline
    rw [hps] at hmem
    obtain ⟨p, -, hp⟩ := List.mem_map.mp hmem
    obtain ⟨sides, hsides, -⟩ := bind_eq_ok_iff.mp hp.symm
    exact ⟨sides, hsides⟩
  intro line hline
  by_cases hblank : allBlank line = true
  · rw [lineParts_eq_nil_iff.mpr hblank]
    simp
  · have hrule : String.ofList line ∈ Grammar.ruleLines (String.ofList cs) := by
      rw [Grammar.ruleLines, String.toList_ofList]
      exact List.mem_map_of_mem (List.mem_filter.mpr ⟨hline, by simpa using hblank⟩)
    obtain ⟨sides, hwhole⟩ := hsides _ ps' hread' _ hrule
    refine length_lineParts_le hwhole fun part hpart => hsides _ ps hread _ ?_
    rw [ruleLines_lines]
    exact List.mem_map_of_mem (List.mem_flatMap.mpr ⟨line, hline, hpart⟩)

end Dividing

section Reporting

/-- Information goes to the report only. -/
theorem inform_eq (o : Output) (quiet : Bool) (text : String) :
    ∃ stderr, o.inform quiet text = { o with stderr := stderr } := by
  cases quiet with
  | false => exact ⟨_, rfl⟩
  | true => exact ⟨o.stderr, rfl⟩

/-- A grammar that is made of text is reported on. -/
theorem exists_reportOf {lines : List (List Char)} (h : grammarOf a lines = .ok g) :
    ∃ text, reportOf a g = .ok text := by
  rw [grammarOf_eq] at h
  obtain ⟨ps, hps⟩ := Grammar.exists_productions_of_make_text rfl rfl h
  have hclasses := Grammar.classify_eq hps
  unfold reportOf
  split
  · rw [Grammar.summary, Grammar.statistics, hps, hclasses]
    exact ⟨_, rfl⟩
  · rw [hclasses]
    exact ⟨_, rfl⟩

variable (hargs : options.read args = .ok a) (hhelp : a.isSet "help" 'h' = false)
  (hoperands : a.operands = [name]) (hopen : inputs.open? name = .ok (bytes, rest))
  (hdecode : decodeText .utf8 bytes = .ok cs)

include hargs hhelp hoperands hopen hdecode

/-- With one file, the command fails if no grammar can be made of the lines of that file. -/
theorem run_of_error (h : grammarOf a (Text.lines cs) = .error fault) :
    (run inputs args).status = 1 := by
  have hnames : Inputs.names [name] = [name] := rfl
  have hlines : (Except.ok (Text.lines cs) >>= grammarOf a : Except Fault Grammar) =
      .error fault := h
  simp only [run, hargs, hhelp, hoperands, hnames, gather, hopen, hdecode, List.nil_append, hlines]
  rfl

/-- Otherwise it reports on that grammar. -/
theorem run_of_ok (h : grammarOf a (Text.lines cs) = .ok g) (hreport : reportOf a g = .ok text) :
    (run inputs args).status = 0 ∧ (run inputs args).stdout = text ++ "\n" := by
  have hnames : Inputs.names [name] = [name] := rfl
  have hlines : (Except.ok (Text.lines cs) >>= grammarOf a : Except Fault Grammar) = .ok g := h
  unfold reportOf at hreport
  simp only [run, hargs, hhelp, hoperands, hnames, gather, hopen, hdecode, List.nil_append, hlines,
    hreport, Bool.false_eq_true, if_false]
  obtain ⟨log, hlog⟩ := inform_eq {} (a.isSet "quiet" 'q') ("read " ++ name)
  obtain ⟨log', hlog'⟩ := inform_eq { stderr := log } (a.isSet "quiet" 'q')
    (toString g.size ++ " rules, " ++ toString g.buckets.length ++ " heads")
  rw [hlog, hlog']
  exact ⟨rfl, by simp [Output.print]⟩

/-- The command fails, or it reports on the grammar that it made. -/
theorem run_cases :
    (∃ fault, grammarOf a (Text.lines cs) = .error fault ∧ (run inputs args).status = 1) ∨
      ∃ g text, grammarOf a (Text.lines cs) = .ok g ∧ reportOf a g = .ok text ∧
        (run inputs args).status = 0 ∧ (run inputs args).stdout = text ++ "\n" := by
  cases h : grammarOf a (Text.lines cs) with
  | error fault => exact .inl ⟨fault, rfl, run_of_error hargs hhelp hoperands hopen hdecode h⟩
  | ok g =>
    obtain ⟨text, htext⟩ := exists_reportOf h
    exact .inr ⟨g, text, rfl, htext, run_of_ok hargs hhelp hoperands hopen hdecode h htext⟩

end Reporting

/-- The command fails exactly if no grammar can be read from the file, and for a grammar that can,
it finds the same one and reports on it. -/
structure Agrees (inputs : Inputs) (args : List String) (a : Arguments) (name : String)
    (cs : List Char) : Prop where
  status_eq_one_iff : (run inputs args).status = 1 ↔
    ∃ fault, fileGrammar inputs a name = .error fault
  reports : ∀ g, fileGrammar inputs a name = .ok g → ∃ text, grammarOf a (Text.lines cs) = .ok g ∧
    reportOf a g = .ok text ∧ (run inputs args).status = 0 ∧
    (run inputs args).stdout = text ++ "\n"

/-- Where no line is cut, the command agrees with the grammar in the file. -/
theorem agrees_of_isUncut (hargs : options.read args = .ok a) (hhelp : a.isSet "help" 'h' = false)
    (hoperands : a.operands = [name]) (hopen : inputs.open? name = .ok (bytes, rest))
    (hdecode : decodeText .utf8 bytes = .ok cs) (huncut : IsUncut cs) :
    Agrees inputs args a name cs := by
  have hsame : ∀ g, grammarOf a (Text.lines cs) = .ok g ↔ fileGrammar inputs a name = .ok g :=
    fun g => grammarOf_eq_ok_iff hopen hdecode huncut
  rcases run_cases hargs hhelp hoperands hopen hdecode with
    ⟨fault, hfault, hstatus⟩ | ⟨g, text, hg, htext, hstatus, hstdout⟩
  · have hnone : ∀ g, fileGrammar inputs a name ≠ .ok g := by
      intro g hg
      cases hfault.symm.trans ((hsame g).mpr hg)
    refine ⟨⟨fun _ => ?_, fun _ => hstatus⟩, fun g hg => absurd hg (hnone g)⟩
    cases h : fileGrammar inputs a name with
    | error fault' => exact ⟨fault', rfl⟩
    | ok g => exact absurd h (hnone g)
  · have hfile := (hsame g).mp hg
    refine ⟨⟨fun h => ?_, fun ⟨fault, h⟩ => ?_⟩, fun g' hg' => ?_⟩
    · rw [hstatus] at h
      cases h
    · cases hfile.symm.trans h
    · obtain rfl := Except.ok.inj (hfile.symm.trans hg')
      exact ⟨text, hg, htext, hstatus, hstdout⟩

/-- With one file that holds text, whatever the delimiter, the brackets and the start symbol are:
what prevents a grammar from being read from the file is a bad value. The command reports on the
grammar that is read from the file, or fails where none can be read, if no line up to a line feed
has something on either side of another line break. With such a line it does so only if both
fail. -/
theorem run_agrees_iff (hargs : options.read args = .ok a) (hhelp : a.isSet "help" 'h' = false)
    (hoperands : a.operands = [name]) (hopen : inputs.open? name = .ok (bytes, rest))
    (hdecode : decodeText .utf8 bytes = .ok cs) :
    (∀ fault, fileGrammar inputs a name = .error fault → fault.kind = .badValue) ∧
      ((run inputs args).status = 0 ∨ (run inputs args).status = 1) ∧
      (IsUncut cs → Agrees inputs args a name cs) ∧
      (Agrees inputs args a name cs ↔ IsUncut cs ∨ ((run inputs args).status = 1 ∧
        ∃ fault, fileGrammar inputs a name = .error fault)) := by
  refine ⟨fun fault h => ?_, ?_, agrees_of_isUncut hargs hhelp hoperands hopen hdecode,
    fun h => ?_, fun h => ?_⟩
  · rw [fileGrammar_eq hopen hdecode] at h
    exact Grammar.kind_of_make_text rfl rfl (startOf_cases a) h
  · rcases run_cases hargs hhelp hoperands hopen hdecode with
      ⟨fault, -, hstatus⟩ | ⟨g, text, -, -, hstatus, -⟩
    · exact .inr hstatus
    · exact .inl hstatus
  · cases hfile : fileGrammar inputs a name with
    | error fault => exact .inr ⟨h.status_eq_one_iff.mpr ⟨fault, hfile⟩, fault, rfl⟩
    | ok g =>
      obtain ⟨text, hg, -⟩ := h.reports g hfile
      exact .inl (not_both_ok hopen hdecode hg hfile)
  · rcases h with h | ⟨hstatus, fault, hfault⟩
    · exact agrees_of_isUncut hargs hhelp hoperands hopen hdecode h
    · refine ⟨⟨fun _ => ⟨fault, hfault⟩, fun _ => hstatus⟩, fun g hg => ?_⟩
      cases hfault.symm.trans hg

/-- A file that is opened leaves some inputs for later. -/
theorem exists_open_eq (h : (inputs.open? name).toOption.map Prod.fst = some bytes) :
    ∃ rest, inputs.open? name = .ok (bytes, rest) := by
  obtain ⟨found, hfound, rfl⟩ := Option.map_eq_some_iff.mp h
  exact ⟨found.2, eq_ok_of_toOption hfound⟩

/-- Two rules on lines of their own, with a line break in front of the second one that is none
between rules, and a start symbol. -/
theorem run_agrees_uncut : ∃ g, fileGrammar
      ⟨[("f", "A --> [a]\n\x0cB --> A, [b]\n".toUTF8.toList)], []⟩
        ⟨[.setting "start" "B"], ["f"]⟩ "f" = .ok g ∧
      g.size = 2 ∧ g.start.map Symbol.text = some "B" ∧
      (run ⟨[("f", "A --> [a]\n\x0cB --> A, [b]\n".toUTF8.toList)], []⟩
        ["--start=B", "f"]).status = 0 := by
  let inputs : Inputs := ⟨[("f", "A --> [a]\n\x0cB --> A, [b]\n".toUTF8.toList)], []⟩
  let a : Arguments := ⟨[.setting "start" "B"], ["f"]⟩
  have hargs : options.read ["--start=B", "f"] = .ok a := by
    simp [options, OptionTable.read, OptionTable.splitName, OptionTable.resolve,
      Arguments.withSetting, Arguments.withOperand, bind, Except.bind, pure, Except.pure, a]
  obtain ⟨rest, hopen⟩ : ∃ rest, inputs.open? "f" =
      .ok ("A --> [a]\n\x0cB --> A, [b]\n".toUTF8.toList, rest) :=
    exists_open_eq (by decide +kernel)
  have hdecode : decodeText .utf8 "A --> [a]\n\x0cB --> A, [b]\n".toUTF8.toList =
      .ok "A --> [a]\n\x0cB --> A, [b]\n".toList := eq_ok_of_toOption (by decide +kernel)
  have huncut : IsUncut "A --> [a]\n\x0cB --> A, [b]\n".toList := by decide +kernel
  have hfound : (fileGrammar inputs a "f").toOption.map
      (fun g => (g.size, g.start.map Symbol.text)) = some (2, some "B") := by
    rw [fileGrammar_eq hopen hdecode]
    decide +kernel
  obtain ⟨g, hg, hcontents⟩ := Option.map_eq_some_iff.mp hfound
  have hread : fileGrammar inputs a "f" = .ok g := eq_ok_of_toOption hg
  obtain ⟨hsize, hstart⟩ := Prod.mk.inj hcontents
  obtain ⟨-, -, hagrees, -⟩ := run_agrees_iff hargs rfl rfl hopen hdecode
  obtain ⟨text, -, -, hstatus, -⟩ := (hagrees huncut).reports g hread
  exact ⟨g, hread, hsize, hstart, hstatus⟩

/-- A rule with a line break in it that is no line feed is read from the file, and refused by the
command. -/
theorem run_disagrees_cut : ∃ g, fileGrammar
      ⟨[("f", "A -->\x0c[a]\n".toUTF8.toList)], []⟩ ⟨[], ["f"]⟩ "f" = .ok g ∧
      options.read ["f"] = .ok ⟨[], ["f"]⟩ ∧
      decodeText .utf8 "A -->\x0c[a]\n".toUTF8.toList = .ok "A -->\x0c[a]\n".toList ∧
      (run ⟨[("f", "A -->\x0c[a]\n".toUTF8.toList)], []⟩ ["f"]).status = 1 ∧
      ¬Agrees ⟨[("f", "A -->\x0c[a]\n".toUTF8.toList)], []⟩ ["f"] ⟨[], ["f"]⟩ "f"
        "A -->\x0c[a]\n".toList := by
  let inputs : Inputs := ⟨[("f", "A -->\x0c[a]\n".toUTF8.toList)], []⟩
  let a : Arguments := ⟨[], ["f"]⟩
  have hargs : options.read ["f"] = .ok a := by
    simp [options, OptionTable.read, Arguments.withOperand, bind, Except.bind, pure, Except.pure, a]
  obtain ⟨rest, hopen⟩ : ∃ rest, inputs.open? "f" =
      .ok ("A -->\x0c[a]\n".toUTF8.toList, rest) := exists_open_eq (by decide +kernel)
  have hdecode : decodeText .utf8 "A -->\x0c[a]\n".toUTF8.toList =
      .ok "A -->\x0c[a]\n".toList := eq_ok_of_toOption (by decide +kernel)
  have hcut : ¬IsUncut "A -->\x0c[a]\n".toList := by decide +kernel
  have hfound : (fileGrammar inputs a "f").toOption.map Grammar.size = some 1 := by
    rw [fileGrammar_eq hopen hdecode]
    decide +kernel
  obtain ⟨g, hg, -⟩ := Option.map_eq_some_iff.mp hfound
  have hread : fileGrammar inputs a "f" = .ok g := eq_ok_of_toOption hg
  have hnone : ∀ g', grammarOf a (Text.lines "A -->\x0c[a]\n".toList) ≠ .ok g' :=
    fun g' hg' => hcut (not_both_ok hopen hdecode hg' hread)
  refine ⟨g, hread, hargs, hdecode, ?_, fun hagrees => ?_⟩
  · cases hcommand : grammarOf a (Text.lines "A -->\x0c[a]\n".toList) with
    | error fault => exact run_of_error hargs rfl rfl hopen hdecode hcommand
    | ok g' => exact absurd hcommand (hnone g')
  · obtain ⟨_, hcommand, -⟩ := hagrees.reports g hread
    exact hnone g hcommand

end PhraseStructure.Command.Classify
