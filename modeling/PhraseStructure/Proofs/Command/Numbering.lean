import PhraseStructure.Command.Dispatch
import PhraseStructure.Proofs.Text.Utf8
import PhraseStructure.Proofs.Tree.Derivation
import PhraseStructure.Proofs.Treebank.Findings
import PhraseStructure.Proofs.Treebank.Rereading

/-!
# Numbering the trees of several files

The command for trees prints each tree that is found in its files with the number that it has among
all of them, and nothing else. One event after the other keeps it so (`Prints`), also where a file
ends inside a tree, and what was printed stays where a fault ends the command (`readFiles_spec`).
For files that hold text, a fault can only come from a bracket without a counterpart
(`numbered_output`).
-/

namespace PhraseStructure.Command.Convert

open Text Treebank

variable {b : Brackets} {c : Choices} {p q s : Progress} {r : Reader} {ts us : List (Tree String)}
  {write : Nat → Tree String → String} {format : Format} {inputs : Inputs} {names : List String}
  {texts : List (List Char)}

/-- The lines of the named files, up to the first file that cannot be read to its end. -/
def inputLines (inputs : Inputs) : List String → List (List Char)
  | [] => []
  | name :: names =>
      match inputs.open? name with
      | .error _ => []
      | .ok (bytes, inputs) =>
          match decodeLines bytes with
          | (lines, none) => lines ++ inputLines inputs names
          | (lines, some _) => lines

/-- What is wrong with the first of the named files that cannot be read to its end. -/
def inputFault (inputs : Inputs) : List String → Option Fault
  | [] => none
  | name :: names =>
      match inputs.open? name with
      | .error fault => some fault
      | .ok (bytes, inputs) =>
          match decodeLines bytes with
          | (_, none) => inputFault inputs names
          | (_, some fault) => some fault

/-- Each tree is written in one way under each number. -/
def WritesNumbered (c : Choices) (write : Nat → Tree String → String) : Prop :=
  ∀ n t, Format.ofName c.format >>= Format.render c.enclosure n t = .ok (write n t)

/-- Trees as they are printed when they are numbered from `n` on. -/
def numbered (write : Nat → Tree String → String) (n : Nat) (ts : List (Tree String)) : String :=
  String.join ((ts.zipIdx n).map fun (t, k) => write k t ++ "\n")

/-- Later trees go on counting where earlier ones have stopped. -/
theorem numbered_append (n : Nat) : numbered write n (ts ++ us) =
    numbered write n ts ++ numbered write (n + ts.length) us := by
  rw [numbered, List.zipIdx_append, List.map_append, String.join_append]
  rfl

/-- Every format writes every tree. -/
theorem Format.exists_render (format : Format) (e : Enclosure) :
    ∃ write : Nat → Tree String → String, ∀ n t, format.render e n t = .ok (write n t) := by
  cases format with
  | grammar =>
    refine ⟨fun _ t => joinStrings "\n"
      (((t.subtrees fun _ => true).map (Tree.license .square)).map Production.text), fun n t => ?_⟩
    rw [Format.render, Tree.productions_map_text]
    rfl
  | _ => exact ⟨_, fun n t => rfl⟩

section Printing

/-- The command has got from one point to another by printing these trees. -/
structure Prints (write : Nat → Tree String → String) (p q : Progress) (ts : List (Tree String)) :
    Prop where
  trees_eq : q.trees = p.trees + ts.length
  status_eq : q.output.status = p.output.status
  stdout_eq : q.output.stdout = p.output.stdout ++ numbered write (p.trees + 1) ts

namespace Prints

/-- Nothing happens without trees. -/
theorem refl (p : Progress) : Prints write p p [] := ⟨rfl, rfl, by simp [numbered]⟩

/-- What is printed in two stages is printed one after the other. -/
theorem trans (h : Prints write p q ts) (h' : Prints write q s us) :
    Prints write p s (ts ++ us) where
  trees_eq := by rw [h'.trees_eq, h.trees_eq, List.length_append, Nat.add_assoc]
  status_eq := h'.status_eq.trans h.status_eq
  stdout_eq := by
    rw [h'.stdout_eq, h.stdout_eq, h.trees_eq, numbered_append, String.append_assoc,
      Nat.add_right_comm]

/-- A fault that ends the command leaves what was printed. -/
theorem stop (h : Prints write p q ts) (fault : Fault) : Prints write p (q.stop fault) ts :=
  ⟨h.trees_eq, h.status_eq, h.stdout_eq⟩

end Prints

/-- A message goes neither to the standard output nor into the status. -/
theorem log_eq (o : Output) (quiet : Bool) (entry : Log.Entry) :
    (o.log quiet entry).stdout = o.stdout ∧ (o.log quiet entry).status = o.status := by
  unfold Output.log
  split
  · exact ⟨rfl, rfl⟩
  · split <;> exact ⟨rfl, rfl⟩
  · exact ⟨rfl, rfl⟩

/-- A message prints no trees. -/
theorem prints_log (p : Progress) (quiet : Bool) (entry : Log.Entry) (fault : Option Fault) :
    Prints write p ⟨p.output.log quiet entry, p.trees, fault⟩ [] where
  trees_eq := rfl
  status_eq := (log_eq p.output quiet entry).2
  stdout_eq := by
    rw [(log_eq p.output quiet entry).1]
    exact (Prints.refl p).stdout_eq

/-- A tree is printed with the next number, and an entry is not. -/
theorem prints_handle (hwrite : WritesNumbered c write) (hp : p.fault = none) (event : Event) :
    (p.handle c event).fault = none ∧ Prints write p (p.handle c event) (trees [event]) := by
  cases event with
  | note entry =>
    have hnote : p.handle c (.note entry) =
        { p with output := p.output.log c.quiet entry } := by
      simp only [Progress.handle, hp]
    rw [hnote]
    exact ⟨hp, prints_log p c.quiet entry p.fault⟩
  | tree t =>
    have htree : p.handle c (.tree t) =
        { p with
          output := p.output.print (write (p.trees + 1) t)
          trees := p.trees + 1 } := by
      simp only [Progress.handle, hp, hwrite (p.trees + 1) t]
    rw [htree]
    refine ⟨hp, rfl, rfl, ?_⟩
    simp [Output.print, numbered, trees, String.append_assoc]

/-- The trees among some events are printed, and no fault comes of them. -/
theorem prints_foldl_handle (hwrite : WritesNumbered c write) (hp : p.fault = none)
    (events : List Event) : (events.foldl (Progress.handle c) p).fault = none ∧
      Prints write p (events.foldl (Progress.handle c) p) (trees events) := by
  induction events generalizing p with
  | nil => exact ⟨hp, .refl p⟩
  | cons event events ih =>
    obtain ⟨hfault, hfirst⟩ := prints_handle hwrite hp event
    obtain ⟨hlater, hrest⟩ := ih hfault
    rw [List.foldl_cons, ← List.singleton_append, trees_append]
    exact ⟨hlater, hfirst.trans hrest⟩

/-- The trees that a reader has found are printed, and its fault is passed on. -/
theorem prints_handleAll (hwrite : WritesNumbered c write) (hp : p.fault = none) (r : Reader) :
    (p.handleAll c r).fault = r.fault ∧ Prints write p (p.handleAll c r) (trees r.events) := by
  obtain ⟨hfault, hprints⟩ := prints_foldl_handle hwrite hp r.events
  rw [Progress.handleAll]
  simp only [hfault]
  cases hr : r.fault with
  | none => exact ⟨hfault, hprints⟩
  | some fault => exact ⟨rfl, hprints.stop fault⟩

end Printing

section Files

/-- Nothing changes in a reader from which nothing is to be taken. -/
theorem emptied_of_found_eq (hr : r.found = []) : emptied r = r := by
  obtain ⟨⟩ := r
  cases hr
  rfl

/-- What was taken out of a reader can be put back. -/
theorem after_emptied (r : Reader) : (emptied r).after r.found = r := rfl

/-- What is found in lines comes behind what was found before, and does not depend on it. -/
theorem foldl_line_emptied (r : Reader) (lines : List (List Char)) :
    lines.foldl Reader.line r = (lines.foldl Reader.line (emptied r)).after r.found := by
  rw [← Reader.foldl_line_after, after_emptied]

/-- The trees that are found come behind those found before. -/
theorem trees_after (r : Reader) (found : List Event) :
    trees (r.after found).events = trees found.reverse ++ trees r.events := by
  rw [← trees_append]
  simp [Reader.after, Reader.events]

/-- What has been found does not matter for the fault at the end. -/
theorem fault_finish_after (r : Reader) (found : List Event) :
    (r.after found).finish.fault = r.finish.fault := by
  have hfault : (r.after found).fault = r.fault := rfl
  have hdepth : (r.after found).depth = r.depth := rfl
  have hbroken : (r.after found).broken = r.broken := rfl
  simp only [Reader.finish, hfault, hdepth, hbroken]
  split
  · rfl
  · split
    · rfl
    · split <;> rfl

/-- After a fault the end of the treebank is not looked at. -/
theorem fault_or_finish (r : Reader) : r.fault.or r.finish.fault = r.finish.fault := by
  cases hr : r.fault with
  | none => exact Option.none_or
  | some fault => simp only [Reader.finish, hr, Option.some_or]

/-- The trees that are found in the lines of some files are printed. What ends the command is what
stops the reader in these lines, or else what is wrong with a file, or else that a tree is open at
the end. -/
theorem readFiles_spec (hwrite : WritesNumbered c write) (inputs : Inputs) (names : List String)
    (hp : p.fault = none) (hfound : r.found = []) (hr : r.fault = none) :
    (readFiles c inputs p r names).fault =
        (((inputLines inputs names).foldl Reader.line r).fault.or
          ((inputFault inputs names).or
            ((inputLines inputs names).foldl Reader.line r).finish.fault)) ∧
      Prints write p (readFiles c inputs p r names)
        (trees ((inputLines inputs names).foldl Reader.line r).events) := by
  induction names generalizing inputs p r with
  | nil =>
    obtain ⟨hfault, hprints⟩ := prints_handleAll hwrite hp r.finish
    rw [Reader.events_finish] at hprints
    rw [readFiles, hfault, inputLines, inputFault, List.foldl_nil, Option.none_or, fault_or_finish]
    exact ⟨rfl, hprints⟩
  | cons name names ih =>
    rw [readFiles, inputLines, inputFault]
    cases inputs.open? name with
    | error fault =>
      have hnone : trees r.events = [] := by rw [Reader.events, hfound]; rfl
      simp only [List.foldl_nil, hr, hnone, Option.none_or, Option.some_or]
      exact ⟨rfl, (Prints.refl p).stop fault⟩
    | ok file =>
      obtain ⟨bytes, inputs⟩ := file
      simp only [emptied_of_found_eq hfound]
      obtain ⟨lines, fault⟩ := decodeLines bytes
      simp only
      obtain ⟨hfault, hprints⟩ := prints_handleAll hwrite hp (lines.foldl Reader.line r)
      cases hend : (lines.foldl Reader.line r).fault with
      | some fault' =>
        -- The reader had to stop, and so does the command.
        rw [hend] at hfault
        simp only [hfault]
        cases fault with
        | none =>
          simp only [List.foldl_append, Reader.foldl_line_of_fault hend, hend]
          exact ⟨rfl, hprints⟩
        | some _ =>
          simp only [hend]
          exact ⟨rfl, hprints⟩
      | none =>
        rw [hend] at hfault
        simp only [hfault]
        cases fault with
        | some fault' =>
          simp only [hend]
          exact ⟨rfl, hprints.stop fault'⟩
        | none =>
          -- The next file is read from an empty reader; what it finds comes behind the rest.
          let read := p.handleAll c (lines.foldl Reader.line r)
          let next : Progress := ⟨read.output.inform c.quiet ("read " ++ name), read.trees, none⟩
          have hinform : Prints write read next [] :=
            prints_log read c.quiet ⟨.info, "read " ++ name⟩ none
          have hnone : next.fault = none := rfl
          have hempty : (emptied (lines.foldl Reader.line r)).found = [] := rfl
          obtain ⟨hlater, hrest⟩ := ih inputs hnone hempty hend
          rw [List.foldl_append, foldl_line_emptied (lines.foldl Reader.line r), trees_after,
            fault_finish_after]
          exact ⟨hlater, hprints.trans (hinform.trans hrest)⟩

end Files

section Running

/-- The named inputs hold these texts in UTF-8, each one when it is its turn to be read. -/
inductive Holds : Inputs → List String → List (List Char) → Prop
  | nil (inputs : Inputs) : Holds inputs [] []
  | cons {inputs rest : Inputs} {name : String} {names : List String} {cs : List Char}
      {texts : List (List Char)} : inputs.open? name = .ok (encodeUtf8 cs, rest) →
      Holds rest names texts → Holds inputs (name :: names) (cs :: texts)

/-- The lines of a text as they are read from a file. -/
def textLines (cs : List Char) : List String :=
  (linesWithFeed (normalizeNewlines cs)).map String.ofList

/-- A text in UTF-8 is decoded to its lines, and nothing is wrong with it. -/
theorem decodeLines_encodeUtf8 (cs : List Char) :
    decodeLines (encodeUtf8 cs) = (linesWithFeed (normalizeNewlines cs), none) := by
  rw [decodeLines, decodeInBlocks_encodeUtf8]

/-- From files that hold text all lines are read, and nothing is wrong with them. -/
theorem Holds.input_eq (h : Holds inputs names texts) :
    inputLines inputs names = (texts.flatMap textLines).map String.toList ∧
      inputFault inputs names = none := by
  induction h with
  | nil => exact ⟨rfl, rfl⟩
  | @cons _ _ _ _ cs _ hopen _ ih =>
    have hlines : (textLines cs).map String.toList = linesWithFeed (normalizeNewlines cs) := by
      simp [textLines]
    simp only [inputLines, inputFault, hopen, decodeLines_encodeUtf8, ih.1, ih.2,
      List.flatMap_cons, List.map_append, hlines, and_self]

variable {args : List String} {a : Arguments}

/-- The command prints the trees that are found in the lines of its files, and then either reports
what ended it or how many trees there were. -/
theorem exists_run_eq (inputs : Inputs)
    (hwrite : WritesNumbered
      ⟨a.isSet "quiet" 'q', b.enclosure, (a.value? "output").getD "summary"⟩ write)
    (hargs : options.read args = .ok a) (hhelp : a.isSet "help" 'h' = false)
    (hbrackets : Brackets.readForTree
      (.text ((a.value? "brackets").getD Brackets.round.text)) = .ok b) :
    ∃ p : Progress,
      p.fault = (((inputLines inputs (Inputs.names a.operands)).foldl Reader.line
        (Reader.start b)).fault.or ((inputFault inputs (Inputs.names a.operands)).or
          (readLines b (inputLines inputs (Inputs.names a.operands))).2)) ∧
      Prints write ⟨{}, 0, none⟩ p
        (trees (readLines b (inputLines inputs (Inputs.names a.operands))).1) ∧
      (p.fault = none → run inputs args =
        p.output.inform (a.isSet "quiet" 'q') (toString p.trees ++ " trees")) ∧
      ∀ fault, p.fault = some fault → run inputs args = p.output.fail fault := by
  obtain ⟨hfault, hprints⟩ := readFiles_spec hwrite inputs (Inputs.names a.operands)
    (p := ⟨{}, 0, none⟩) (r := Reader.start b) rfl rfl rfl
  rw [← Reader.events_finish] at hprints
  refine ⟨_, hfault, hprints, fun hnone => ?_, fun fault hsome => ?_⟩
  · rw [run, hargs]
    simp only [hhelp, hbrackets, hnone, Bool.false_eq_true, if_false]
  · rw [run, hargs]
    simp only [hhelp, hbrackets, hsome, Bool.false_eq_true, if_false]

/-- Nothing but what is printed goes to the standard output of the command. -/
theorem stdout_run
    (hwrite : WritesNumbered
      ⟨a.isSet "quiet" 'q', b.enclosure, (a.value? "output").getD "summary"⟩ write)
    (hargs : options.read args = .ok a) (hhelp : a.isSet "help" 'h' = false)
    (hbrackets : Brackets.readForTree
      (.text ((a.value? "brackets").getD Brackets.round.text)) = .ok b) :
    (run inputs args).stdout =
      numbered write 1 (trees (readLines b (inputLines inputs (Inputs.names a.operands))).1) := by
  obtain ⟨p, -, hprints, hend, hfail⟩ := exists_run_eq inputs hwrite hargs hhelp hbrackets
  have hstdout := hprints.stdout_eq
  rw [String.empty_append] at hstdout
  rw [← hstdout]
  cases hfault : p.fault with
  | none =>
    rw [hend hfault]
    exact (log_eq _ _ _).1
  | some fault =>
    rw [hfail fault hfault]
    rfl

/-- The command line is passed on to the command for trees, unless help is asked for. -/
theorem run_tree (program : String) (hargs : options.read args = .ok a)
    (hhelp : a.isSet "help" 'h' = false) :
    Command.run inputs (program :: "tree" :: args) = .ok (run inputs args) := by
  have hfind : commands.find? (·.name = "tree") =
      some ⟨"tree", "Read bracketed trees; report their shape or convert them.", usage, options,
        run⟩ := rfl
  have hletter : args ≠ ["-h"] := by
    rintro rfl
    have hread : options.read ["-h"] = .ok ⟨[.letter 'h'], []⟩ := by
      simp [options, OptionTable.read, OptionTable.readLetters, bind, Except.bind, pure,
        Except.pure]
    cases hread.symm.trans hargs
    exact absurd hhelp (by decide)
  have hname : args ≠ ["--help"] := by
    rintro rfl
    have hread : options.read ["--help"] = .ok ⟨[.flag "help"], []⟩ := by
      simp [options, OptionTable.read, OptionTable.splitName, OptionTable.resolve,
        Arguments.withSetting, bind, Except.bind, pure, Except.pure]
    cases hread.symm.trans hargs
    exact absurd hhelp (by decide)
  simp only [Command.run.eq_def]
  split
  · next hversion => simp at hversion
  · next hversion => simp at hversion
  · next hcons =>
    obtain ⟨rfl, rfl⟩ := List.cons.inj hcons
    rw [hfind]
    split
    · exact absurd ‹some _ = none› (Option.some_ne_none _)
    · exact absurd rfl hletter
    · exact absurd rfl hname
    · cases ‹some _ = some _›
      rfl
  · next hnil => cases hnil

/-- What is printed are the texts of the trees, in the order of their numbers. -/
theorem exists_outputs (hwrite : ∀ n t, format.render b.enclosure n t = .ok (write n t)) (n : Nat)
    (ts : List (Tree String)) :
    ∃ outputs, List.Forall₂ (fun numbered output =>
      format.render b.enclosure numbered.2 numbered.1 = .ok output) (ts.zipIdx n) outputs ∧
      numbered write n ts = String.join (outputs.map (· ++ "\n")) := by
  refine ⟨(ts.zipIdx n).map fun (t, k) => write k t, ?_, ?_⟩
  · rw [List.forall₂_map_right_iff, List.forall₂_same]
    exact fun numbered _ => hwrite numbered.2 numbered.1
  · rw [numbered, List.map_map]
    rfl

/-- For files that hold text and any output format, the command ends by itself. What it has printed
are the trees that are found in the lines of all files one after the other, each with the number
that it has among all of them. It ends with success if nothing is wrong with these lines, and
otherwise after it has reported that brackets are without a counterpart; the trees before that place
were printed all the same. -/
theorem numbered_output (program : String) (hargs : options.read args = .ok a)
    (hhelp : a.isSet "help" 'h' = false)
    (hbrackets : (a.value? "brackets").getD Brackets.round.text = b.text)
    (hb : b.opening ≠ b.closing)
    (hformat : Format.ofName ((a.value? "output").getD "summary") = .ok format)
    (hfiles : Holds inputs (Inputs.names a.operands) texts) :
    ∃ events fault o outputs,
      Treebank.read (.list ((texts.flatMap textLines).map .text)) (.text b.text) =
        (events, fault) ∧
      Command.run inputs (program :: "tree" :: args) = .ok o ∧
      List.Forall₂ (fun numbered output =>
        format.render b.enclosure numbered.2 numbered.1 = .ok output)
        ((trees events).zipIdx 1) outputs ∧
      o.stdout = String.join (outputs.map (· ++ "\n")) ∧
      (fault = none → o.status = 0) ∧
      ∀ f, fault = some f → o.status = 1 ∧ f.kind = .malformedTree ∧
        ∃ front message, f.message? = some message ∧
          o.stderr = front ++ ("error: " ++ message) ++ "\n" := by
  obtain ⟨write, hrender⟩ := format.exists_render b.enclosure
  have hwrite : WritesNumbered
      ⟨a.isSet "quiet" 'q', b.enclosure, (a.value? "output").getD "summary"⟩ write := by
    intro n t
    rw [hformat]
    exact hrender n t
  have hread : Brackets.readForTree
      (.text ((a.value? "brackets").getD Brackets.round.text)) = .ok b := by
    rw [hbrackets, Brackets.readForTree_text]
  obtain ⟨hlines, hreadable⟩ := hfiles.input_eq
  obtain ⟨p, hfault, hprints, hend, hfail⟩ := exists_run_eq inputs hwrite hargs hhelp hread
  rw [hlines, hreadable, Option.none_or] at hfault
  have hsame : p.fault = (readLines b ((texts.flatMap textLines).map String.toList)).2 :=
    hfault.trans (fault_or_finish _)
  obtain ⟨outputs, houtputs, hstdout⟩ := exists_outputs hrender 1
    (trees (readLines b ((texts.flatMap textLines).map String.toList)).1)
  refine ⟨_, _, run inputs args, outputs, read_texts b _, run_tree program hargs hhelp, houtputs,
    ?_, fun hnone => ?_, fun f hsome => ?_⟩
  · rw [stdout_run hwrite hargs hhelp hread, hlines, hstdout]
  · rw [hend (hsame.trans hnone), Output.inform, (log_eq _ _ _).2]
    exact hprints.status_eq
  · rw [hfail f (hsame.trans hsome)]
    rcases fault_readLines hb ((texts.flatMap textLines).map String.toList) with
      hnone | ⟨cs, defect, hdefect⟩
    · exact absurd (hnone.symm.trans hsome) (by simp)
    · obtain rfl := Option.some.inj (hdefect.symm.trans hsome)
      exact ⟨rfl, rfl, p.output.stderr, _, rfl, rfl⟩

/-- A tree that begins in one file and ends in the next, some text, another tree, and a closing
bracket that is left over. -/
theorem numbered_output_two_files :
    ∃ inputs o, inputs = (⟨[("a", "(S (A a)\n(B".toUTF8.toList),
        ("b", "b)) x\n(C c)\n)\n(D d)\n".toUTF8.toList)], []⟩ : Inputs) ∧
      Command.run inputs ["grammartree", "tree", "a", "b"] = .ok o ∧
      o.stdout = "1. (S (A a) (B b))\nheight: 2\nleaves: a b\n2. (C c)\nheight: 1\nleaves: c\n" ∧
      o.status = 1 := by
  let inputs : Inputs := ⟨[("a", "(S (A a)\n(B".toUTF8.toList),
    ("b", "b)) x\n(C c)\n)\n(D d)\n".toUTF8.toList)], []⟩
  let texts := ["(S (A a)\n(B".toList, "b)) x\n(C c)\n)\n(D d)\n".toList]
  have hargs : options.read ["a", "b"] = .ok ⟨[], ["a", "b"]⟩ := by
    simp [options, OptionTable.read, Arguments.withOperand, bind, Except.bind, pure, Except.pure]
  have hfiles : Holds inputs (Inputs.names ["a", "b"]) texts := by
    have hread : inputs.files.read "a" = .ok (encodeUtf8 "(S (A a)\n(B".toList) :=
      eq_ok_of_toOption (by decide +kernel)
    have hread' : inputs.files.read "b" = .ok (encodeUtf8 "b)) x\n(C c)\n)\n(D d)\n".toList) :=
      eq_ok_of_toOption (by decide +kernel)
    have hopen : inputs.open? "a" = .ok (encodeUtf8 "(S (A a)\n(B".toList, inputs) := by
      rw [Inputs.open?, if_neg (by decide), hread]
      rfl
    have hopen' : inputs.open? "b" =
        .ok (encodeUtf8 "b)) x\n(C c)\n)\n(D d)\n".toList, inputs) := by
      rw [Inputs.open?, if_neg (by decide), hread']
      rfl
    exact .cons hopen (.cons hopen' (.nil inputs))
  obtain ⟨events, fault, o, outputs, hread, hrun, houtputs, hstdout, -, hfail⟩ :=
    numbered_output "grammartree" hargs rfl rfl (by decide) rfl hfiles
  let first : Tree String := .node "S" [.node "A" [.leaf "a"], .node "B" [.leaf "b"]]
  let second : Tree String := .node "C" [.leaf "c"]
  have hone : Format.render Brackets.round.enclosure 1 first .summary =
      .ok "1. (S (A a) (B b))\nheight: 2\nleaves: a b" := by
    have hheight : first.height = 2 := by
      simp [first, Tree.height, Tree.heightFrom, Tree.children, List.filter, Tree.isNode]
    rw [Format.render, hheight]
    exact congrArg _ (by decide +kernel)
  have htwo : Format.render Brackets.round.enclosure 2 second .summary =
      .ok "2. (C c)\nheight: 1\nleaves: c" := by
    have hheight : second.height = 1 := by
      simp [second, Tree.height, Tree.heightFrom, Tree.children, List.filter, Tree.isNode]
    rw [Format.render, hheight]
    exact congrArg _ (by decide +kernel)
  have htrees : trees (Treebank.read (.list ((texts.flatMap textLines).map .text))
      (.text Brackets.round.text)).1 = [first, second] := by
    decide +kernel
  have hfault : (Treebank.read (.list ((texts.flatMap textLines).map .text))
      (.text Brackets.round.text)).2.isSome = true := by
    decide +kernel
  rw [hread] at htrees hfault
  obtain ⟨f, rfl⟩ := Option.isSome_iff_exists.mp hfault
  refine ⟨inputs, o, rfl, hrun, ?_, (hfail f rfl).1⟩
  rw [htrees] at houtputs
  cases houtputs with
  | cons hfirst hrest =>
    cases hrest with
    | cons hsecond hnil =>
      cases hone.symm.trans hfirst
      cases htwo.symm.trans hsecond
      cases hnil
      rw [hstdout]
      decide +kernel

end Running

end PhraseStructure.Command.Convert
