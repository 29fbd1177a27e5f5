import PhraseStructure.Proofs.Grammar.Texts

/-!
# Extending a grammar

A grammar is extended by the productions that another one gives, one after another. Under each head
the new daughters come behind the old ones, and a production that cannot be read ends the extension
behind those before it. A grammar that is extended by itself grows while it is read: what is added
for the next production of the first bucket goes into the same bucket, so that there is always one
more to read (`StandsInFirst.exists_next`, `StandsInFirst.growFrom_eq_none`). The extension ends at
once or never (`Represents.endsAtOnce_or_isEndless`, `ReachableFrom.extend_laws`).
-/

namespace PhraseStructure.Grammar

open Production

variable {g x : Grammar} {L M : List (List Symbol × List Symbol)} {head : List Symbol}
  {ps front : List Production} {rest : List (Except Fault Production)} {fault : Fault}
  {b : Brackets} {c : Cursor} {edited : Edited Unit} {d : List Symbol} {ds : List (List Symbol)}
  {later : List Bucket}

/-- The grammar comes to the end of its own productions while these are being added to it, in some
number of steps. -/
def ExtendsItself (g : Grammar) (edited : Edited Unit) : Prop :=
  ∃ budget, g.growFrom budget ⟨0, 0⟩ = some edited

section Adding

/-- The texts found under a head are those of the productions that are given. -/
theorem Represents.map_texts_daughtersOf (hM : Represents x M) (hps : x.productions = .ok ps)
    (head : List Symbol) :
    (x.daughtersOf head).map texts = daughterTexts (texts head) (ps.map sideTexts) := by
  rw [map_sideTexts_productions hps, hM.daughterTexts_pairs, hM.daughtersOf_eq, map_texts_filter]

/-- The daughters of the productions that a grammar gives come behind those that were there. -/
theorem Represents.daughtersOf_addAll_beq (hL : Represents g L) (hM : Represents x M)
    (hps : x.productions = .ok ps) (head : List Symbol) :
    ((g.addAll ps).daughtersOf head == g.daughtersOf head ++ x.daughtersOf head) = true := by
  rw [daughters_beq_iff, List.map_append, hM.map_texts_daughtersOf hps, hL.daughtersOf_eq,
    (hL.addAll ps).daughtersOf_eq, map_texts_filter, map_texts_filter, List.map_append,
    daughterTexts_append, map_pairTexts_sides]

end Adding

section Growing

/-- What stands behind the cursor in its bucket comes next. -/
theorem next?_eq_some (hbucket : g.buckets[c.bucket]? = some (head, ds))
    (hplace : ds[c.place]? = some d) :
    g.next? c = some (head, d, ⟨c.bucket, c.place + 1⟩) := by
  unfold next?
  split
  · next hnone =>
    rw [hbucket] at hnone
    cases hnone
  · next hsome =>
    rw [hbucket] at hsome
    cases hsome
    rw [hplace]

/-- Without buckets nothing comes next. -/
theorem next?_eq_none (h : g.buckets = []) : g.next? c = none := by
  unfold next?
  split
  · rfl
  · next hsome =>
    rw [h] at hsome
    cases hsome

/-- The cursor is in front of one of the productions in the first bucket. -/
structure StandsInFirst (g : Grammar) (head : List Symbol) (c : Cursor) : Prop where
  bucket_eq : c.bucket = 0
  exists_bucket : ∃ ds later, g.buckets = (head, ds) :: later ∧ c.place < ds.length

/-- A production of the first bucket comes next, and what is added for it is put behind those that
are left. -/
theorem StandsInFirst.exists_next (h : g.StandsInFirst head c) :
    ∃ d, g.next? c = some (head, d, ⟨c.bucket, c.place + 1⟩) ∧
      ∀ p : Production, (p.head == head) = true →
        (g.add p).StandsInFirst head ⟨c.bucket, c.place + 1⟩ := by
  obtain ⟨hbucket, ds, later, hbuckets, hplace⟩ := h
  have hfirst : g.buckets[c.bucket]? = some (head, ds) := by
    rw [hbucket, hbuckets]
    rfl
  refine ⟨ds[c.place], next?_eq_some hfirst (List.getElem?_eq_getElem hplace), fun p hp => ?_⟩
  refine ⟨hbucket, ds ++ [p.daughters], later, ?_, ?_⟩
  · rw [add, hbuckets, addTo, if_pos (BEq.symm hp)]
  · rw [List.length_append, List.length_singleton]
    exact Nat.succ_lt_succ hplace

/-- From the first bucket no number of steps leads to the end. -/
theorem StandsInFirst.growFrom_eq_none (h : g.StandsInFirst head c) (hhead : head ≠ [])
    (hb : g.conventions.brackets = .text b.text) (budget : Nat) :
    g.growFrom budget c = none := by
  -- The grammar and the cursor change with every step, but the cursor stays in the first bucket.
  induction budget generalizing g c with
  | zero => rfl
  | succ budget ih =>
    obtain ⟨d, hnext, hadded⟩ := h.exists_next
    obtain ⟨p, hp, hsame, -⟩ := rewrap_text hhead d b
    have hlater : (g.add p).growFrom budget ⟨c.bucket, c.place + 1⟩ = none :=
      ih (hadded p hsame) hb
    simp only [growFrom, hnext, hb, hp, hlater, Option.map_none]

/-- The extension of a grammar by itself ends, and this is what it leaves. -/
structure EndsAs (g : Grammar) (edited : Edited Unit) : Prop where
  extendsItself_iff : ∀ other, g.ExtendsItself other ↔ other = edited
  extend_eq : g.extend .itself = edited

/-- If one step leads to the end, so does any number of steps. -/
theorem endsAs_of_growFrom (h : ∀ budget, g.growFrom (budget + 1) ⟨0, 0⟩ = some edited) :
    g.EndsAs edited where
  extendsItself_iff other := by
    constructor
    · rintro ⟨budget, hbudget⟩
      cases budget with
      | zero => cases hbudget
      | succ budget =>
        rw [h budget] at hbudget
        exact (Option.some.inj hbudget).symm
    · rintro rfl
      exact ⟨1, h 0⟩
  extend_eq := by rw [extend, extendByItself, h, Option.getD_some]

/-- There is nothing to be read if there is no production. -/
theorem readings_eq_nil_iff : g.readings = [] ↔ g.size = 0 := by
  rw [← List.length_eq_zero_iff, readings, List.length_map, pairs, ← pairsIn, length_pairsIn, size]

/-- Nothing was added, and the productions were at their end or the first could not be read. -/
structure EndsAtOnce (g : Grammar) (result : Except Fault Unit) : Prop where
  endsAs : g.EndsAs ⟨g, [], result⟩
  not_endless : result ≠ .error .endless
  unread : ∀ p rest, g.readings ≠ .ok p :: rest
  eq_ok_iff : result = .ok () ↔ g.readings = []

/-- The first production is read, and then there is always one more. -/
structure IsEndless (g : Grammar) : Prop where
  not_extendsItself : ∀ edited, ¬g.ExtendsItself edited
  extend_eq : g.extend .itself = ⟨g, [], .error .endless⟩
  exists_read : ∃ p rest, g.readings = .ok p :: rest

/-- A grammar without productions is at its end at once. -/
theorem endsAtOnce_of_nil (h : g.buckets = []) : g.EndsAtOnce (.ok ()) := by
  have hreadings : g.readings = [] := by
    rw [readings, pairs, h]
    rfl
  refine ⟨endsAs_of_growFrom fun budget => ?_, by simp, ?_, by simp [hreadings]⟩
  · simp only [growFrom, next?_eq_none h]
  · intro p rest hfirst
    rw [hreadings] at hfirst
    cases hfirst

/-- The first production is read from the first daughters in the first bucket. -/
theorem exists_readings_eq (h : g.buckets = (head, d :: ds) :: later) :
    ∃ rest, g.readings = rewrap head d g.conventions.brackets :: rest := by
  rw [readings, pairs, h]
  exact ⟨_, rfl⟩

/-- A first production that cannot be read is the end. -/
theorem endsAtOnce_of_error (h : g.buckets = (head, d :: ds) :: later)
    (hread : rewrap head d g.conventions.brackets = .error fault) :
    g.EndsAtOnce (.error fault) := by
  obtain ⟨rest, hreadings⟩ := exists_readings_eq h
  rw [hread] at hreadings
  have hfirst : g.buckets[0]? = some (head, d :: ds) := by
    rw [h]
    rfl
  have hnext : g.next? ⟨0, 0⟩ = some (head, d, ⟨0, 1⟩) := next?_eq_some hfirst rfl
  refine ⟨endsAs_of_growFrom fun budget => ?_, ?_, ?_, by simp [hreadings]⟩
  · simp only [growFrom, hnext, hread]
  · rcases eq_of_rewrap_error hread with ⟨rfl, -⟩ | ⟨rfl, -⟩ <;> simp
  · intro p rest' hok
    rw [hreadings] at hok
    cases hok

/-- If the first production can be read, so can all that follow in its bucket. -/
theorem isEndless_of_ok {p : Production} (h : g.buckets = (head, d :: ds) :: later)
    (hread : rewrap head d g.conventions.brackets = .ok p) : g.IsEndless := by
  obtain ⟨rest, hreadings⟩ := exists_readings_eq h
  obtain ⟨b, hb, hhead, -⟩ := rewrap_eq_ok_iff.mp hread
  have hstands : g.StandsInFirst head ⟨0, 0⟩ := ⟨rfl, d :: ds, later, h, Nat.zero_lt_succ _⟩
  have hne : head ≠ [] := by
    rintro rfl
    exact p.head_ne_nil hhead
  have hnone := hstands.growFrom_eq_none hne hb
  refine ⟨?_, ?_, p, rest, hread ▸ hreadings⟩
  · rintro edited ⟨budget, hbudget⟩
    rw [hnone budget] at hbudget
    cases hbudget
  · rw [extend, extendByItself, hnone, Option.getD_none]

/-- A grammar that is extended by itself ends at once or never. -/
theorem Represents.endsAtOnce_or_isEndless (h : Represents g L) :
    (∃ result, g.EndsAtOnce result) ∨ g.IsEndless := by
  cases hbuckets : g.buckets with
  | nil => exact .inl ⟨_, endsAtOnce_of_nil hbuckets⟩
  | cons bucket later =>
    obtain ⟨head, ds⟩ := bucket
    have hne : ds ≠ [] := h.noneEmpty (head, ds) (hbuckets ▸ List.mem_cons_self)
    obtain ⟨d, ds, rfl⟩ := List.exists_cons_of_ne_nil hne
    cases hread : rewrap head d g.conventions.brackets with
    | error fault => exact .inl ⟨_, endsAtOnce_of_error hbuckets hread⟩
    | ok p => exact .inr (isEndless_of_ok hbuckets hread)

/-- A grammar whose end is reached at once comes to the end of its productions. -/
theorem EndsAtOnce.extendsItself {result : Except Fault Unit} (h : g.EndsAtOnce result) :
    g.ExtendsItself ⟨g, [], result⟩ :=
  (h.endsAs.extendsItself_iff _).mpr rfl

/-- With valid brackets and a symbol in each head, the first production is read if there is one. -/
theorem Represents.exists_extendsItself_iff (hL : Represents g L) (husable : g.IsUsable) :
    (∃ edited, g.ExtendsItself edited) ↔ g.size = 0 := by
  obtain ⟨ps, hps⟩ := hL.exists_productions husable
  have hreadings : g.readings = ps.map .ok := mapM_id_eq_ok_iff.mp hps
  rw [← readings_eq_nil_iff]
  rcases hL.endsAtOnce_or_isEndless with ⟨result, honce⟩ | hendless
  · refine iff_of_true ⟨_, honce.extendsItself⟩ ?_
    cases ps with
    | nil => exact hreadings
    | cons p ps => exact absurd hreadings (honce.unread p _)
  · obtain ⟨p, rest, hfirst⟩ := hendless.exists_read
    refine iff_of_false (fun hedited => hedited.elim hendless.not_extendsItself) ?_
    rw [hfirst]
    exact List.cons_ne_nil _ _

end Growing

/-- A grammar is extended by any other one that can be iterated over, that is, one without
productions or one with valid brackets and a symbol in each head. All productions are added in
order, and under each head the new daughters come behind the old ones. If one cannot be read, those
before it have been added. The extension of a grammar by itself comes to an end exactly if the first
production cannot be read or there is none, and then nothing is added; with valid brackets and a
symbol in each head it does so only if there is no production. -/
theorem ReachableFrom.extend_laws (hg : ReachableFrom IsAccepted g)
    (hx : ReachableFrom IsAccepted x) :
    (∀ ps, x.productions = .ok ps →
      g.extend (.grammar x) = ⟨g.addAll ps, ps.map addedEntry, .ok ()⟩ ∧
        ∀ head, ((g.addAll ps).daughtersOf head ==
          g.daughtersOf head ++ x.daughtersOf head) = true) ∧
      ((∃ ps, x.productions = .ok ps) ↔ x.size = 0 ∨ x.IsUsable) ∧
      (∀ front fault rest, x.readings = front.map .ok ++ .error fault :: rest →
        g.extend (.grammar x) = ⟨g.addAll front, front.map addedEntry, .error fault⟩) ∧
      ((∃ edited, g.ExtendsItself edited) ↔ ∀ p rest, g.readings ≠ .ok p :: rest) ∧
      (∀ edited, g.ExtendsItself edited → g.extend .itself = edited ∧ edited.grammar = g ∧
        (edited.result = .ok () ↔ g.size = 0)) ∧
      ((g.extend .itself).result = .error .endless ↔ ¬∃ edited, g.ExtendsItself edited) ∧
      (g.IsUsable → ((∃ edited, g.ExtendsItself edited) ↔ g.size = 0)) := by
  obtain ⟨L, hL⟩ := hg.exists_represents
  obtain ⟨M, hM⟩ := hx.exists_represents
  refine ⟨fun ps hps => ⟨?_, hL.daughtersOf_addAll_beq hM hps⟩, hM.exists_productions_iff, ?_, ?_⟩
  · exact extend_of_productions (by simp) ((Rules.productions_grammar g x).trans hps)
  · intro front fault rest hreadings
    have hread : (Rules.grammar x).readings g = .ok x.readings := rfl
    rw [extend_of_readings (by simp) hread, hreadings, addReadings_append_error]
  -- The rest is about the grammar itself, which ends at once or never.
  · rcases hL.endsAtOnce_or_isEndless with ⟨result, honce⟩ | hendless
    · refine ⟨iff_of_true ⟨_, honce.extendsItself⟩ honce.unread, ?_, ?_,
        hL.exists_extendsItself_iff⟩
      · intro edited hedited
        obtain rfl := (honce.endsAs.extendsItself_iff edited).mp hedited
        exact ⟨honce.endsAs.extend_eq, rfl, honce.eq_ok_iff.trans readings_eq_nil_iff⟩
      · rw [honce.endsAs.extend_eq]
        exact iff_of_false honce.not_endless (not_not_intro ⟨_, honce.extendsItself⟩)
    · have hnone : ¬∃ edited, g.ExtendsItself edited := by
        rintro ⟨edited, hedited⟩
        exact hendless.not_extendsItself edited hedited
      obtain ⟨p, rest, hfirst⟩ := hendless.exists_read
      refine ⟨iff_of_false hnone fun hunread => hunread p rest hfirst, ?_, ?_,
        hL.exists_extendsItself_iff⟩
      · intro edited hedited
        exact absurd ⟨edited, hedited⟩ hnone
      · rw [hendless.extend_eq]
        exact iff_of_true rfl hnone

/-- A grammar with one production, which is extended by one that has the same head and other
brackets: under the head both daughters are found. Extended by itself it would never be done. -/
theorem extend_laws_brackets :
    ∃ g x, ∃ s t : Symbol, ∃ first second : Production,
      ReachableFrom IsAccepted g ∧ ReachableFrom IsAccepted x ∧ g.productions = .ok [first] ∧
        x.productions = .ok [second] ∧ g.conventions.brackets ≠ x.conventions.brackets ∧
        g.extend (.grammar x) = ⟨g.add second, [addedEntry second], .ok ()⟩ ∧
        ((g.add second).daughtersOf [s] == [[s], [t]]) = true ∧
        ¬∃ edited, g.ExtendsItself edited := by
  let angle : Brackets := ⟨'<', '>', rfl, rfl⟩
  let first : Production := ⟨[⟨"S", .square⟩], [⟨"S", .square⟩], by simp⟩
  let second : Production := ⟨[⟨"S", angle⟩], [⟨"<t>", angle⟩], by simp⟩
  let g : Grammar := { (empty {}).add first with start := some ⟨"S", .square⟩ }
  let x : Grammar :=
    { (empty { brackets := .text "<>" }).add second with start := some ⟨"S", angle⟩ }
  have hg : ReachableFrom IsAccepted g :=
    .initial ⟨{}, .given (.list [.production first]), .null, rfl⟩
  have hx : ReachableFrom IsAccepted x :=
    .initial ⟨{ brackets := .text "<>" }, .given (.list [.production second]), .null, rfl⟩
  have husable : g.IsUsable := ⟨⟨.square, rfl⟩, by simp [g, add, empty, first]⟩
  obtain ⟨hextend, -, -, -, -, -, hself⟩ := hg.extend_laws hx
  obtain ⟨hadded, hdaughters⟩ := hextend [second] rfl
  refine ⟨g, x, ⟨"S", .square⟩, ⟨"<t>", angle⟩, first, second, hg, hx, rfl, rfl, ?_, hadded,
    hdaughters _, fun hends => ?_⟩
  · simp [g, x, add, empty]
  · exact absurd ((hself husable).mp hends) (by decide)

/-- A grammar that is extended by itself need not have its productions twice then: with one
production this never ends. -/
theorem not_extend_itself_ends :
    ¬ ∀ g, Reachable g → ∃ edited, g.ExtendsItself edited ∧ edited.result = .ok () ∧
      ∀ head, (edited.grammar.daughtersOf head == g.daughtersOf head ++ g.daughtersOf head) =
        true := by
  intro h
  let p : Production := ⟨[⟨"S", .square⟩], [⟨"[a]", .square⟩], by simp⟩
  have hmade : IsMade (empty {}) :=
    ⟨⟨{}, .given .null, .null, rfl⟩, ⟨.square, rfl⟩, by simp [empty]⟩
  have hreach : Reachable ((empty {}).add p) := .step (.initial hmade) (.push _ (.production p))
  have hstands : ((empty {}).add p).StandsInFirst p.head ⟨0, 0⟩ :=
    ⟨rfl, [p.daughters], [], rfl, Nat.one_pos⟩
  obtain ⟨edited, ⟨budget, hends⟩, -⟩ := h _ hreach
  have hnone := hstands.growFrom_eq_none p.head_ne_nil (b := .square) rfl budget
  rw [hnone] at hends
  cases hends

end PhraseStructure.Grammar
