import PhraseStructure.Grammar.Contents
import PhraseStructure.Proofs.Grammar.Alike
import PhraseStructure.Proofs.Grammar.RoundTrip
import PhraseStructure.Proofs.Production.Overlap

/-!
# The forms in which rules are given

Rules are given as productions, as pairs of sides, as texts one by one, or as the lines of one text
(`Form`). However they are given, the same productions are read, except that productions keep the
brackets that they have (`Form.make_eq`), so that the grammars that are made cannot be told apart.
The table of a grammar is taken over bucket by bucket (`addEntries_tableEntries`). It holds the same
productions under the same heads, but does not tell the order in which productions with different
heads were added (`forms_agree`).
-/

namespace PhraseStructure.Grammar

open Production Text

variable {g h : Grammar} {ps rs : List Production} {p : Production} {b : Brackets} {d d' : Datum}
  {s : String} {names : List String} {sides : Sides} {buckets : List Bucket}

section Giving

/-- The value is a symbol with this text. -/
inductive GivesSymbol (s : String) : Datum → Prop
  | text : GivesSymbol s (.text s)
  | symbol (b : Brackets) : GivesSymbol s (.symbol ⟨s, b⟩)

/-- The value is one side of a rule: a sequence of symbols with these texts, or a single one. -/
inductive GivesSide (names : List String) : Datum → Prop
  | list {elements : List Datum} : List.Forall₂ GivesSymbol names elements →
      GivesSide names (.list elements)
  | tuple {elements : List Datum} : List.Forall₂ GivesSymbol names elements →
      GivesSide names (.tuple elements)
  | single {s : String} {d : Datum} : names = [s] → GivesSymbol s d → GivesSide names d

/-- The value is the pair of the sides of a rule. -/
inductive GivesPair (sides : Sides) : Datum → Prop
  | list {head daughters : Datum} : GivesSide sides.head head →
      GivesSide sides.daughters daughters → GivesPair sides (.list [head, daughters])
  | tuple {head daughters : Datum} : GivesSide sides.head head →
      GivesSide sides.daughters daughters → GivesPair sides (.tuple [head, daughters])

/-- The value gives productions with these texts in one of the forms in which their order stands. -/
inductive Form (ps : List Production) : Datum → Prop
  | productions : Form ps (.list (ps.map .production))
  | pairs {pairs : List Datum} : List.Forall₂ (fun p d => GivesPair p.sideTexts d) ps pairs →
      Form ps (.list pairs)
  | texts : Form ps (.list (ps.map fun p => .text p.text))
  | lines {lines : List String} : (∀ line ∈ lines, '\n' ∉ line.toList) →
      lines.filter (!allBlank ·.toList) = ps.map Production.text →
      Form ps (.text (joinStrings "\n" lines))

/-- The value gives productions with these texts in one of the forms, or as the table of a grammar
that was made of one. -/
inductive FormOrTable (ps : List Production) : Datum → Prop
  | form {d : Datum} : Form ps d → FormOrTable ps d
  | table {d : Datum} {g : Grammar} : FormOrTable ps d →
      (make {} (.given d) .null).result = .ok g → FormOrTable ps g.toTable

/-- A value that is a symbol is read as one with its text, under the brackets that are given. -/
theorem GivesSymbol.read_eq (h : GivesSymbol s d) (b : Brackets) :
    Symbol.read d (.text b.text) = .ok ⟨s, b⟩ := by
  cases h <;> rw [Symbol.read, Brackets.read_text] <;> rfl

/-- A value that is a side of a rule is read as its symbols, under the brackets that are given. -/
theorem GivesSide.readSide_eq (h : GivesSide names d) (b : Brackets) :
    readSide d (.text b.text) = .ok (names.map (Symbol.mk · b)) := by
  have hread : ∀ {elements}, List.Forall₂ GivesSymbol names elements →
      elements.mapM (Symbol.read · (.text b.text)) = .ok (names.map (Symbol.mk · b)) := by
    intro elements hall
    rw [mapM_eq_ok_iff, List.forall₂_map_right_iff]
    exact (hall.imp fun s d hs => hs.read_eq b).flip
  cases h with
  | list hall => exact hread hall
  | tuple hall => exact hread hall
  | single hnames hs =>
    obtain rfl := hnames
    have hone := hread (.cons hs .nil)
    cases hs <;> exact hone

/-- A pair of sides is read as the production with these sides, under the brackets of the grammar.
-/
theorem GivesPair.readRule_eq (h : GivesPair p.sideTexts d)
    (hb : g.conventions.brackets = .text b.text) : g.readRule d = .ok (p.under b) := by
  have hmk : ∀ symbols : List Symbol,
      (texts symbols).map (Symbol.mk · b) = symbols.map (rebracketed · b) := by
    intro symbols
    rw [texts, List.map_map]
    rfl
  have hread : ∀ {head daughters}, GivesSide p.sideTexts.head head →
      GivesSide p.sideTexts.daughters daughters →
      Production.read head daughters (.text b.text) = .ok (p.under b) := by
    intro head daughters hhead hdaughters
    have hheads := hhead.readSide_eq b
    have hothers := hdaughters.readSide_eq b
    rw [sideTexts, hmk] at hheads hothers
    have hne : p.head.map (rebracketed · b) ≠ [] := (p.under b).head_ne_nil
    refine bind_eq_ok_iff.mpr ⟨_, hheads, ?_⟩
    rw [dif_pos hne]
    exact bind_eq_ok_iff.mpr ⟨_, hothers, rfl⟩
  cases h with
  | list hhead hdaughters =>
    rw [readRule, hb]
    exact hread hhead hdaughters
  | tuple hhead hdaughters =>
    rw [readRule, hb]
    exact hread hhead hdaughters

end Giving

section Making

/-- All symbols of the productions are read back from the texts of rules with the usual delimiter.
-/
def AreReadable (ps : List Production) : Prop :=
  ∀ p ∈ ps, ∀ s ∈ p.symbols, IsReadable (removeBlanks arrow.toList) s.text

/-- The grammar of some productions, which starts where the first of them does. -/
def ofProductions (ps : List Production) : Grammar :=
  { (empty {}).addAll ps with start := ps.head?.map fun p => p.head.head p.head_ne_nil }

/-- The empty grammar under the usual conventions is sound. -/
theorem isSound_empty : (empty {}).IsSound :=
  ⟨⟨⟨.square, rfl⟩, by simp [empty]⟩, [], .empty {}⟩

/-- The grammar of some productions is sound. -/
theorem isSound_ofProductions (ps : List Production) : (ofProductions ps).IsSound :=
  (isSound_empty.addAll ps).withStart _

/-- The grammar of some productions has the usual conventions. -/
theorem conventions_ofProductions (ps : List Production) : (ofProductions ps).conventions = {} :=
  conventions_addAll ps

/-- The grammar of some productions represents these in their order. -/
theorem represents_ofProductions (ps : List Production) :
    Represents (ofProductions ps) (ps.map Production.sides) :=
  ((Represents.empty {}).addAll ps).congr rfl rfl

/-- By default a grammar starts where the first of its productions does. -/
theorem defaultStart_addAll (ps : List Production) : ((empty {}).addAll ps).defaultStart =
    .ok (ps.head?.map fun p => p.head.head p.head_ne_nil) := by
  rw [defaultStart, addAll_additions]
  cases ps with
  | nil => rfl
  | cons p ps =>
    obtain ⟨head, daughters, hne⟩ := p
    cases head with
    | nil => exact absurd rfl hne
    | cons s rest => rfl

/-- The text of a production is read under the usual conventions. -/
theorem readRule_text (hp : ∀ s ∈ p.symbols, IsReadable (removeBlanks arrow.toList) s.text) :
    (empty {}).readRule (.text p.text) = .ok (p.under .square) := by
  have hread : Sides.read p.text arrow = .ok (p.under .square).sideTexts := by
    rw [sideTexts_under]
    exact read_render_of_isReadable (by decide) (by decide) (by decide) hp
  have hbrackets : (empty {}).conventions.brackets = .text Brackets.square.text := rfl
  have hdelimiter : (empty {}).conventions.delimiter = .text arrow := rfl
  rw [readRule, hbrackets, hdelimiter]
  exact ofText_eq_ok_iff.mpr ⟨hread, .of_rebracketed p.head _, .of_rebracketed p.daughters _⟩

/-- In whatever form, the productions are read one by one. -/
theorem Form.exists_collect (h : Form ps d) (hps : AreReadable ps) :
    ∃ rs, (rs = ps ∨ rs = ps.map (·.under .square)) ∧
      collect {} (.given d) = ⟨(empty {}).addAll rs, rs.map addedEntry, .ok ()⟩ := by
  have htexts : (ps.map Production.text).map (fun line => (empty {}).readRule (.text line)) =
      (ps.map (·.under .square)).map .ok := by
    rw [List.map_map, List.map_map]
    exact List.map_congr_left fun p hp => readRule_text (hps p hp)
  cases h with
  | productions =>
    refine ⟨ps, .inl rfl, collect_list ?_⟩
    rw [List.map_map]
    rfl
  | @pairs pairs hpairs =>
    refine ⟨_, .inr rfl, collect_list ?_⟩
    rw [← List.forall₂_eq_eq_eq, List.forall₂_map_left_iff, List.forall₂_map_right_iff,
      List.forall₂_map_right_iff]
    have hread := hpairs.imp fun p d hd => hd.readRule_eq (g := empty {}) (b := .square) rfl
    exact hread.flip
  | texts =>
    refine ⟨_, .inr rfl, collect_list ?_⟩
    rw [← htexts, List.map_map, List.map_map]
    rfl
  | @lines lines hlines hrules =>
    refine ⟨_, .inr rfl, ?_⟩
    rw [collect_text rfl, lineReadings, ruleLines_join hlines, hrules, htexts, addReadings_map_ok]

/-- In whatever form, a grammar is made of the same productions, or of these under the usual
brackets. -/
theorem Form.make_eq (h : Form ps d) (hps : AreReadable ps) :
    ∃ rs, (rs = ps ∨ rs = ps.map (·.under .square)) ∧
      (make {} (.given d) .null).result = .ok (ofProductions rs) := by
  obtain ⟨rs, hrs, hcollect⟩ := h.exists_collect hps
  refine ⟨rs, hrs, ?_⟩
  rw [result_make, hcollect]
  exact bind_eq_ok_iff.mpr ⟨(), rfl, bind_eq_ok_iff.mpr ⟨_, defaultStart_addAll rs, rfl⟩⟩

/-- The brackets under which productions were read do not matter for their texts. -/
theorem map_sideTexts_of_form (hrs : rs = ps ∨ rs = ps.map (·.under b)) :
    rs.map sideTexts = ps.map sideTexts := by
  rcases hrs with rfl | rfl
  · rfl
  · rw [List.map_map]
    exact List.map_congr_left fun p _ => sideTexts_under p b

/-- Grammars of productions with the same texts cannot be told apart. -/
theorem alike_ofProductions (h : rs.map sideTexts = ps.map sideTexts) :
    Alike (ofProductions rs) (ofProductions ps) where
  conventions_eq := (conventions_ofProductions rs).trans (conventions_ofProductions ps).symm
  bucketTexts_eq := by
    have hpairs : (rs.map sides).map pairTexts = (ps.map sides).map pairTexts := by
      rw [List.map_map, List.map_map]
      exact h
    rw [ofProductions, ofProductions, addAll_buckets, addAll_buckets]
    exact map_bucketTexts_addPairs hpairs rfl
  additionTexts_eq := by
    have hheads : ∀ qs : List Production,
        (ofProductions qs).additions.map texts = (qs.map sideTexts).map Sides.head := by
      intro qs
      rw [(represents_ofProductions qs).additions_eq, List.map_map, List.map_map, List.map_map]
      rfl
    rw [hheads, hheads, h]

end Making

section Tables

/-- A bucket with other brackets. -/
def bucketUnder (b : Brackets) (bucket : Bucket) : Bucket :=
  (bucket.1.map (rebracketed · b), bucket.2.map fun d => d.map (rebracketed · b))

/-- Other brackets leave the texts of a bucket as they are. -/
theorem bucketTexts_bucketUnder (b : Brackets) (bucket : Bucket) :
    bucketTexts (bucketUnder b bucket) = bucketTexts bucket := by
  rw [bucketTexts, bucketUnder, texts_rebracketed, List.map_map, bucketTexts]
  exact congrArg _ (List.map_congr_left fun d _ => texts_rebracketed d b)

/-- A side is read back as the same texts under the brackets that are given. -/
theorem readSide_side (symbols : List Symbol) (b : Brackets) :
    readSide (side symbols) (.text b.text) = .ok (symbols.map (rebracketed · b)) := by
  have hgives : GivesSide (texts symbols) (side symbols) := by
    refine .tuple ?_
    rw [texts, List.forall₂_map_left_iff, List.forall₂_map_right_iff]
    exact List.forall₂_same.mpr fun s _ => .symbol s.brackets
  rw [hgives.readSide_eq, texts, List.map_map]
  rfl

/-- The entry of a bucket in the table of a grammar. -/
def tableEntry (bucket : Bucket) : Datum × Datum := (side bucket.1, .list (bucket.2.map side))

/-- The table of a grammar has one entry for each of its buckets, in their order. -/
theorem toTable_eq (g : Grammar) : g.toTable = .table (g.buckets.map tableEntry) := rfl

/-- The entries of the table of some buckets are taken over as these buckets, under the brackets of
the grammar and behind those that are there. -/
theorem addEntries_tableEntries {front : Grammar}
    (hb : front.conventions.brackets = .text b.text) (hdiffer : HeadsDiffer buckets)
    (hne : NoneEmpty buckets) (hfront : ∀ bucket ∈ buckets, ¬HasHead front.buckets bucket.1) :
    front.addEntries (buckets.map tableEntry) =
      .ok { front with
        buckets := front.buckets ++ buckets.map (bucketUnder b)
        additions := front.additions ++
          buckets.flatMap fun bucket => bucket.2.map fun _ => bucket.1.map (rebracketed · b) } := by
  induction buckets generalizing front with
  | nil => simp [addEntries]
  | cons bucket rest ih =>
    obtain ⟨head, ds⟩ := bucket
    obtain ⟨hfirst, hrest⟩ := headsDiffer_cons.mp hdiffer
    rw [NoneEmpty, List.forall_mem_cons] at hne
    rw [List.forall_mem_cons] at hfront
    have hvoid : (Datum.list (ds.map side)).isVoid = false := by
      simpa [Datum.isVoid] using hne.1
    have hsame : (head.map (rebracketed · b) == head) = true :=
      Symbol.list_beq_iff.mpr (texts_rebracketed head b)
    have hnew : ¬HasHead front.buckets (head.map (rebracketed · b)) := by
      rw [hasHead_congr hsame]
      exact hfront.1
    have hdaughters : (ds.map side).mapM (readSide · (.text b.text)) =
        .ok (ds.map fun d => d.map (rebracketed · b)) := by
      rw [mapM_eq_ok_iff, List.forall₂_map_left_iff, List.forall₂_map_right_iff]
      exact List.forall₂_same.mpr fun d _ => readSide_side d b
    have hothers : ∀ other ∈ rest,
        ¬HasHead (front.buckets ++ [bucketUnder b (head, ds)]) other.1 := by
      rintro other hother ⟨found, hfound, hequal⟩
      rcases List.mem_append.mp hfound with hmem | hmem
      · exact hfront.2 other hother ⟨found, hmem, hequal⟩
      · obtain rfl := List.mem_singleton.mp hmem
        exact hfirst ⟨other, hother, BEq.symm (BEq.trans (BEq.symm hsame) hequal)⟩
    have hadditions : (ds.map fun d => d.map (rebracketed · b)).map (fun _ =>
        head.map (rebracketed · b)) = ds.map fun _ => head.map (rebracketed · b) := List.map_map
    let next : Grammar :=
      { front with
        buckets := front.buckets ++ [bucketUnder b (head, ds)]
        additions := front.additions ++ ds.map fun _ => head.map (rebracketed · b) }
    have hstep : front.addEntries (((head, ds) :: rest).map tableEntry) =
        next.addEntries (rest.map tableEntry) := by
      rw [List.map_cons, tableEntry, addEntries, hvoid, hb, readSide_side]
      simp only [Bool.false_eq_true, if_false, Datum.elements?, hdaughters, bind, Except.bind]
      rw [addTo_of_not_hasHead hnew, hadditions]
      rfl
    have hnext : next.conventions.brackets = .text b.text := hb
    rw [hstep, ih hnext hrest hne.2 hothers]
    simp [next]

end Tables

section Holding

/-- The grammar holds productions with the texts of these, grouped as they are, under the usual
conventions, and starts where the first of them does. -/
structure Holds (g : Grammar) (ps : List Production) : Prop where
  isSound : g.IsSound
  conventions_eq : g.conventions = {}
  bucketTexts_eq : g.buckets.map bucketTexts = (ofProductions ps).buckets.map bucketTexts
  startText_eq : g.start.map Symbol.text =
    ps.head?.map fun p => (p.head.head p.head_ne_nil).text

/-- The first bucket has the head of the first production. -/
theorem head?_bucketTexts (ps : List Production) :
    ((ofProductions ps).buckets.map bucketTexts).head?.map Prod.fst =
      ps.head?.map fun p => texts p.head := by
  have hfirst : (ofProductions ps).buckets.head?.map Prod.fst =
      (ofProductions ps).additions.head? := head?_addAll (g := empty {}) rfl ps
  have hadditions : (ofProductions ps).additions.head? = ps.head?.map Production.head := by
    rw [(represents_ofProductions ps).additions_eq, List.map_map, List.head?_map]
    rfl
  have htexts := congrArg (Option.map texts) (hfirst.trans hadditions)
  rw [Option.map_map, Option.map_map] at htexts
  rw [List.head?_map, Option.map_map]
  exact htexts

/-- The grammar of productions with the same texts holds these. -/
theorem holds_ofProductions (h : rs.map sideTexts = ps.map sideTexts) :
    (ofProductions rs).Holds ps where
  isSound := isSound_ofProductions rs
  conventions_eq := conventions_ofProductions rs
  bucketTexts_eq := (alike_ofProductions h).bucketTexts_eq
  startText_eq := by
    have hfirst := congrArg List.head? h
    rw [List.head?_map, List.head?_map] at hfirst
    rw [ofProductions, Option.map_map]
    cases hrs : rs.head? with
    | none =>
      rw [hrs, Option.map_none, eq_comm, Option.map_eq_none_iff] at hfirst
      rw [hfirst]
      rfl
    | some r =>
      rw [hrs, Option.map_some, eq_comm, Option.map_eq_some_iff] at hfirst
      obtain ⟨p, hp, hsame⟩ := hfirst
      obtain ⟨hhead, -⟩ := Sides.mk.inj hsame
      have hone : ∀ q : Production,
          some (q.head.head q.head_ne_nil).text = (texts q.head).head? := by
        intro q
        rw [texts, List.head?_map, List.head?_eq_some_head q.head_ne_nil, Option.map_some]
      have hfirst : some (r.head.head r.head_ne_nil).text =
          some (p.head.head p.head_ne_nil).text := by
        rw [hone, hone, hhead]
      rw [hp]
      exact hfirst

/-- A stored head has a symbol. -/
theorem IsSound.head_ne_nil (hg : g.IsSound) {bucket : Bucket} (hbucket : bucket ∈ g.buckets) :
    bucket.1 ≠ [] := by
  intro hnil
  obtain ⟨L, hL⟩ := hg.represents
  obtain ⟨e, he, hsame⟩ := hL.hasHead_iff.mp ⟨bucket, hbucket, BEq.rfl⟩
  refine hg.usable.heads_ne_nil ?_
  rw [hL.additions_eq]
  exact List.mem_map.mpr ⟨e, he, by simpa [hnil] using hsame⟩

/-- A grammar starts by default with the first symbol of its first bucket, if this is where the
first production was added. -/
theorem exists_defaultStart_of_buckets (hg : g.Holds ps) {taken : Grammar}
    (hadditions : taken.additions =
      g.buckets.flatMap fun bucket => bucket.2.map fun _ => bucket.1.map (rebracketed · b)) :
    ∃ s, taken.defaultStart = .ok s ∧
      s.map Symbol.text = ps.head?.map fun p => (p.head.head p.head_ne_nil).text := by
  have hfirst := head?_bucketTexts ps
  rw [← hg.bucketTexts_eq] at hfirst
  cases hbuckets : g.buckets with
  | nil =>
    rw [hbuckets, List.map_nil, List.head?_nil, Option.map_none, eq_comm,
      Option.map_eq_none_iff] at hfirst
    rw [hbuckets, List.flatMap_nil] at hadditions
    refine ⟨none, ?_, by rw [hfirst]; rfl⟩
    rw [defaultStart, hadditions]
  | cons bucket rest =>
    obtain ⟨L, hL⟩ := hg.isSound.represents
    have hmem : bucket ∈ g.buckets := hbuckets ▸ List.mem_cons_self
    obtain ⟨d, ds, hds⟩ := List.exists_cons_of_ne_nil (hL.noneEmpty bucket hmem)
    obtain ⟨s, others, hhead⟩ := List.exists_cons_of_ne_nil (hg.isSound.head_ne_nil hmem)
    rw [hbuckets, List.map_cons, List.head?_cons, Option.map_some, eq_comm,
      Option.map_eq_some_iff] at hfirst
    obtain ⟨p, hp, htexts⟩ := hfirst
    refine ⟨some (rebracketed s b), ?_, ?_⟩
    · rw [defaultStart, hadditions, hbuckets, List.flatMap_cons, hds, List.map_cons, hhead,
        List.map_cons, List.cons_append]
    · have hsame : (texts p.head).head? = some s.text := by
        rw [htexts, bucketTexts, hhead]
        rfl
      rw [texts, List.head?_map, List.head?_eq_some_head p.head_ne_nil, Option.map_some] at hsame
      rw [hp]
      exact hsame.symm

/-- A grammar is made of the table of another one. -/
theorem Holds.exists_make_table (hg : g.Holds ps) :
    ∃ t, (make {} (.given g.toTable) .null).result = .ok t ∧ t.Holds ps := by
  obtain ⟨L, hL⟩ := hg.isSound.represents
  have hbrackets : (empty {}).conventions.brackets = .text Brackets.square.text := rfl
  let taken : Grammar :=
    { empty {} with
      buckets := g.buckets.map (bucketUnder .square)
      additions := g.buckets.flatMap fun bucket =>
        bucket.2.map fun _ => bucket.1.map (rebracketed · .square) }
  have hentries : (empty {}).addEntries (g.buckets.map tableEntry) = .ok taken :=
    addEntries_tableEntries hbrackets hL.headsDiffer hL.noneEmpty fun _ _ => hasHead_nil
  have hadditions : taken.additions = g.buckets.flatMap fun bucket =>
      bucket.2.map fun _ => bucket.1.map (rebracketed · .square) := rfl
  obtain ⟨s, hs, htext⟩ := exists_defaultStart_of_buckets hg hadditions
  have hmake : (make {} (.given g.toTable) .null).result = .ok { taken with start := s } := by
    rw [result_make, toTable_eq, collect, ofEntries, hentries]
    exact bind_eq_ok_iff.mpr ⟨(), rfl, bind_eq_ok_iff.mpr ⟨s, hs, rfl⟩⟩
  have hheads : [] ∉ taken.additions := by
    intro hnil
    obtain ⟨bucket, hbucket, hmem⟩ := List.mem_flatMap.mp hnil
    obtain ⟨_, -, hempty⟩ := List.mem_map.mp hmem
    exact hg.isSound.head_ne_nil hbucket (List.map_eq_nil_iff.mp hempty)
  refine ⟨_, hmake, ⟨⟨⟨.square, rfl⟩, hheads⟩, (exists_make hmake).1⟩, rfl, ?_, htext⟩
  rw [← hg.bucketTexts_eq, List.map_map]
  exact List.map_congr_left fun bucket _ => bucketTexts_bucketUnder .square bucket

/-- A grammar is made of each of the forms, and it holds the productions. -/
theorem Form.exists_make (h : Form ps d) (hps : AreReadable ps) :
    ∃ g, (make {} (.given d) .null).result = .ok g ∧ g.Holds ps := by
  obtain ⟨rs, hrs, hmake⟩ := h.make_eq hps
  exact ⟨_, hmake, holds_ofProductions (map_sideTexts_of_form hrs)⟩

/-- A grammar is made of each of the forms and of tables in turn, and it holds the productions. -/
theorem FormOrTable.exists_make (h : FormOrTable ps d) (hps : AreReadable ps) :
    ∃ g, (make {} (.given d) .null).result = .ok g ∧ g.Holds ps := by
  induction h with
  | form h => exact h.exists_make hps
  | table _ hmake ih =>
    obtain ⟨g, hmake', hg⟩ := ih
    cases hmake.symm.trans hmake'
    exact hg.exists_make_table

/-- Grammars that hold the same productions are equal. -/
theorem Holds.equal (hg : g.Holds ps) (hh : h.Holds ps) : g.equal h = true := by
  obtain ⟨L, hL⟩ := hg.isSound.represents
  obtain ⟨L', hL'⟩ := hh.isSound.represents
  exact hL.equal_of_bucketTexts hL' (hg.bucketTexts_eq.trans hh.bucketTexts_eq.symm)

end Holding

/-- Whichever form productions with readable symbols are given in, the grammar that is made of them
gives the same productions in the same order, which are those that were given, in their order under
each head, and it starts with the same symbol. So does the grammar that is made of the table of one
of these, and any two of them are equal. Where the order of addition is given as well, every
sequence of pushes and removals returns the same for any two of them. If the productions carry the
usual brackets, the grammars are the same. -/
theorem forms_agree (hps : AreReadable ps) :
    ∃ qs : List Production,
      (∀ key, daughterTexts key (qs.map sideTexts) = daughterTexts key (ps.map sideTexts)) ∧
      (∀ d, FormOrTable ps d → ∃ g, (make {} (.given d) .null).result = .ok g ∧
        g.productions = .ok qs ∧
        g.start.map Symbol.text = ps.head?.map fun p => (p.head.head p.head_ne_nil).text) ∧
      (∀ d d' g h, FormOrTable ps d → FormOrTable ps d' →
        (make {} (.given d) .null).result = .ok g → (make {} (.given d') .null).result = .ok h →
        g.equal h = true) ∧
      (∀ d d' g h, Form ps d → Form ps d' →
        (make {} (.given d) .null).result = .ok g → (make {} (.given d') .null).result = .ok h →
        ∀ calls, (g.runAll calls).1 = (h.runAll calls).1 ∧
          (g.runAll calls).2.equal (h.runAll calls).2 = true ∧
          (g.runAll calls).2.productions = (h.runAll calls).2.productions) ∧
      ((∀ p ∈ ps, AreUnder .square p.symbols) → ∀ d d', Form ps d → Form ps d' →
        (make {} (.given d) .null).result = (make {} (.given d') .null).result) := by
  have hrep := represents_ofProductions ps
  obtain ⟨qs, hqs⟩ := hrep.exists_productions (isSound_ofProductions ps).usable
  refine ⟨qs, fun key => ?_, fun d hd => ?_, ?_, ?_, ?_⟩
  · rw [map_sideTexts_productions hqs, hrep.daughterTexts_pairs, List.map_map]
    rfl
  · obtain ⟨g, hmake, hg⟩ := hd.exists_make hps
    have hconventions := hg.conventions_eq.trans (conventions_ofProductions ps).symm
    exact ⟨g, hmake, (productions_congr_texts hconventions hg.bucketTexts_eq).trans hqs,
      hg.startText_eq⟩
  · intro d d' g h hd hd' hmake hmake'
    obtain ⟨g', hg', hholds⟩ := hd.exists_make hps
    obtain ⟨h', hh', hholds'⟩ := hd'.exists_make hps
    cases hmake.symm.trans hg'
    cases hmake'.symm.trans hh'
    exact hholds.equal hholds'
  · intro d d' g h hd hd' hmake hmake' calls
    obtain ⟨rs, hrs, hg⟩ := hd.make_eq hps
    obtain ⟨rs', hrs', hh⟩ := hd'.make_eq hps
    cases hmake.symm.trans hg
    cases hmake'.symm.trans hh
    have hsame : rs.map sideTexts = rs'.map sideTexts :=
      (map_sideTexts_of_form hrs).trans (map_sideTexts_of_form hrs').symm
    obtain ⟨hresults, hleft, hsound, hsound'⟩ :=
      (alike_ofProductions hsame).runAll (isSound_ofProductions rs) (isSound_ofProductions rs')
        calls
    exact ⟨hresults, hleft.equal hsound hsound', hleft.productions_eq⟩
  · intro hunder d d' hd hd'
    obtain ⟨rs, hrs, hg⟩ := hd.make_eq hps
    obtain ⟨rs', hrs', hh⟩ := hd'.make_eq hps
    have hkept : ps.map (·.under .square) = ps := by
      have hid : ∀ p ∈ ps, p.under .square = p := by
        intro p hp
        refine eq_of_sideTexts ?_ (hunder p hp) (sideTexts_under p .square)
        exact areUnder_append.mpr ⟨.of_rebracketed p.head _, .of_rebracketed p.daughters _⟩
      rw [List.map_congr_left hid, List.map_id']
    rw [hkept, or_self] at hrs hrs'
    rw [hg, hh, hrs, hrs']

/-- A rule that is there twice, around one with another head: as lines of a text with blank ones in
between, as pairs of sides, and as the table of the first of these. -/
theorem forms_agree_repeated :
    ∃ ps lines pairs g h t, AreReadable ps ∧
      lines = "S --> A\n\n \nA --> [b]\nS --> A" ∧ FormOrTable ps g.toTable ∧
      (make {} (.given (.text lines)) .null).result = .ok g ∧
      (make {} (.given pairs) .null).result = .ok h ∧
      (make {} (.given g.toTable) .null).result = .ok t ∧
      g.equal h = true ∧ h.equal t = true ∧ t.productions = g.productions ∧
      t.start.map Symbol.text = some "S" ∧
      ∃ calls, calls = [.pop .null, .push (.text "A --> S"), .pop (.int 0), .pop (.int 7)] ∧
        (g.runAll calls).1 = (h.runAll calls).1 ∧ g = h := by
  let s : Symbol := ⟨"S", .square⟩
  let a : Symbol := ⟨"A", .square⟩
  let p : Production := ⟨[s], [a], by simp⟩
  let q : Production := ⟨[a], [⟨"[b]", .square⟩], by simp⟩
  let ps := [p, q, p]
  let lines := "S --> A\n\n \nA --> [b]\nS --> A"
  let pair : Datum := .list [.text "S", .tuple [.symbol a]]
  let pairs : Datum := .list [pair, .tuple [.list [.text "A"], .text "[b]"], pair]
  have hps : AreReadable ps := by
    unfold AreReadable
    decide
  have hlines : Form ps (.text lines) := by
    have hjoin : lines = joinStrings "\n" ["S --> A", "", " ", "A --> [b]", "S --> A"] := by
      decide
    rw [hjoin]
    exact .lines (by decide) (by decide)
  have hpair : GivesPair p.sideTexts pair :=
    .list (.single rfl .text) (.tuple (.cons (.symbol .square) .nil))
  have hother : GivesPair q.sideTexts (.tuple [.list [.text "A"], .text "[b]"]) :=
    .tuple (.list (.cons .text .nil)) (.single rfl .text)
  have hpairs : Form ps pairs := .pairs (.cons hpair (.cons hother (.cons hpair .nil)))
  obtain ⟨qs, -, hmade, hequal, hcalls, hsame⟩ := forms_agree hps
  obtain ⟨g, hg, hgs, -⟩ := hmade _ (.form hlines)
  obtain ⟨h, hh, -, -⟩ := hmade _ (.form hpairs)
  have htable : FormOrTable ps g.toTable := .table (.form hlines) hg
  obtain ⟨t, ht, hts, hstart⟩ := hmade _ htable
  refine ⟨ps, lines, pairs, g, h, t, hps, rfl, htable, hg, hh, ht,
    hequal _ _ _ _ (.form hlines) (.form hpairs) hg hh, hequal _ _ _ _ (.form hpairs) htable hh ht,
    hts.trans hgs.symm, hstart, _, rfl, (hcalls _ _ _ _ hlines hpairs hg hh _).1, ?_⟩
  have hunder : ∀ p ∈ ps, AreUnder .square p.symbols := by
    unfold AreUnder
    decide
  exact Except.ok.inj (hg.symm.trans ((hsame hunder _ _ hlines hpairs).trans hh))

end PhraseStructure.Grammar
