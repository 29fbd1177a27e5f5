import PhraseStructure.Fault

/-!
# Symbols and productions from values

Symbols are made from texts, or from other symbols, and productions from their two sides. What is
given for them may be any value, and so may the brackets. Symbols are looked at before the brackets,
and a head before the daughters.
-/

namespace PhraseStructure

/-- Reads a pair of brackets; the caller says what kind of fault a bad one is. -/
def Brackets.read (kind : FaultKind) (given : Datum) : Except Fault Brackets :=
  match given with
  | .text s =>
      match ofChars? s.toList with
      | some b => .ok b
      | none => .error (.badBrackets kind given)
  | _ => .error (.badBrackets kind given)

/-- A pair of brackets is read back from its text. -/
theorem Brackets.read_text (kind : FaultKind) (b : Brackets) :
    Brackets.read kind (.text b.text) = .ok b := by
  have h : ofChars? b.toChars = some b := ofChars?_eq_some_iff.mpr rfl
  simp [Brackets.read, text, h]

/-- Only the text of a pair of brackets is read as one. -/
theorem Brackets.read_eq_ok_iff {kind : FaultKind} {given : Datum} {b : Brackets} :
    Brackets.read kind given = .ok b ↔ given = .text b.text := by
  constructor
  · intro h
    unfold Brackets.read at h
    split at h
    · next s =>
      split at h
      · next b' hs =>
        cases h
        rw [text, ← ofChars?_eq_some_iff.mp hs, String.ofList_toList]
      · cases h
    · cases h
  · rintro rfl
    exact read_text kind b

/-- What cannot be read as brackets are no brackets. -/
theorem Brackets.eq_of_read_error {kind : FaultKind} {given : Datum} {fault : Fault}
    (h : Brackets.read kind given = .error fault) :
    fault = .badBrackets kind given ∧ ∀ b : Brackets, given ≠ .text b.text := by
  constructor
  · unfold Brackets.read at h
    split at h
    · split at h
      · cases h
      · exact (Except.error.inj h).symm
    · exact (Except.error.inj h).symm
  · rintro b rfl
    rw [Brackets.read_text] at h
    cases h

/-- Makes a symbol of a text, or of another symbol's text. -/
def Symbol.read (given brackets : Datum) : Except Fault Symbol :=
  match given with
  | .text s => do return ⟨s, ← Brackets.read .badValue brackets⟩
  | .symbol s => do return ⟨s.text, ← Brackets.read .badValue brackets⟩
  | _ => .error (.notText given)

namespace Production

/-- The given values of one side: a text or a symbol is a single one. -/
def sideElements (given : Datum) : Except Fault (List Datum) :=
  match given with
  | .text _ | .symbol _ => .ok [given]
  | _ =>
      match given.elements? with
      | some elements => .ok elements
      | none => .error .wrongKind

/-- Reads the symbols of one side. -/
def readSide (given brackets : Datum) : Except Fault (List Symbol) := do
  (← sideElements given).mapM (Symbol.read · brackets)

/-- Reads a production from its two sides. The head is read, and found not to be empty, before the
daughters are looked at. -/
def read (head daughters brackets : Datum) : Except Fault Production := do
  let heads ← readSide head brackets
  if h : heads ≠ [] then
    let daughters ← readSide daughters brackets
    return ⟨heads, daughters, h⟩
  else throw .noHead

/-- The production of stored symbols under chosen brackets. A head without symbols is refused
whatever the brackets are. -/
def rewrap (head daughters : List Symbol) (brackets : Datum) : Except Fault Production :=
  if h : head ≠ [] then do
    let b ← Brackets.read .badValue brackets
    return ⟨head.map (rebracketed · b), daughters.map (rebracketed · b), by simpa using h⟩
  else throw .noHead

end Production

end PhraseStructure
