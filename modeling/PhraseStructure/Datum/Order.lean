import PhraseStructure.Fault
import PhraseStructure.Fingerprint

/-!
# Comparisons of values

Numbers have their order and texts the order of their code points, in which a symbol takes part by
its text. All other values cannot be put in order.
-/

namespace PhraseStructure.Datum

/-- Whether `a` comes before `b`. A symbol can be put before symbols and texts, and a text only
before texts. -/
def before (a b : Datum) : Except Fault Bool :=
  match a, b with
  | symbol s, symbol t => .ok (s.precedes t)
  | symbol s, text t => .ok (s.text < t)
  | text s, text t => .ok (s < t)
  | _, _ =>
      match a.number?, b.number? with
      | some m, some n => .ok (m.less n)
      | _, _ => .error .wrongKind

/-- Whether `a` comes after `b`, that is, `b` before `a`. -/
def after (a b : Datum) : Except Fault Bool := b.before a

/-- Whether two values have the same fingerprint. What may not be a key has none. -/
def sameFingerprint (a b : Datum) : Except Fault Bool :=
  match Fingerprint.ofDatum? a, Fingerprint.ofDatum? b with
  | some f, some g => .ok (f == g)
  | _, _ => .error .wrongKind

end PhraseStructure.Datum
